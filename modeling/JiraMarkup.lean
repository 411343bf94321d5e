import JiraMarkup.Directory
import JiraMarkup.Machine
import JiraMarkup.Main
import JiraMarkup.Proofs.CodeBody
import JiraMarkup.Proofs.Conservation
import JiraMarkup.Proofs.Dialects
import JiraMarkup.Proofs.StyleMarks
import JiraMarkup.Proofs.Letters
import JiraMarkup.Proofs.RepeatedSpans
import JiraMarkup.Proofs.Fencing
import JiraMarkup.Proofs.SecondPass
import JiraMarkup.Proofs.Renaming
import JiraMarkup.Proofs.CodeBlocks
import JiraMarkup.Proofs.LineCounts
import JiraMarkup.Proofs.PlainText
import JiraMarkup.Proofs.RenamedBlocks
import JiraMarkup.Proofs.RenamedStyles
import JiraMarkup.Proofs.PanelLines
import JiraMarkup.Proofs.StyleProgress
import JiraMarkup.Proofs.MixedStyles
import JiraMarkup.Proofs.UnreadTags
import JiraMarkup.Proofs.MarkedLines
import JiraMarkup.Proofs.RuledRows
import JiraMarkup.Proofs.LinkAndImage
import JiraMarkup.Proofs.DelimitedLines
import JiraMarkup.Proofs.LongSpans
import JiraMarkup.Proofs.Footers
import JiraMarkup.Proofs.KeptMarks
import JiraMarkup.Proofs.FileSystems
import JiraMarkup.Proofs.Runs
import JiraMarkup.Proofs.Outcomes
import JiraMarkup.Proofs.KeyOrder
import JiraMarkup.Proofs.MergedSettings
