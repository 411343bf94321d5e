import Mathlib.Data.Char
import Mathlib.Data.List.Lex
import JiraMarkup.Toml.Document

/-!
# The order of keys

However a document spreads its tables over headers, dotted keys and inline
tables, what it denotes has the keys of every table in ascending order, so that
no key comes twice. Tables grow in `update` only, which keeps the order; all
else is an induction on the document.
-/

namespace JiraMarkup.Toml

/-! ## Values -/

/-- A value that another one holds at any depth, or that is the other one. -/
inductive Within (v : Value) : Value → Prop
  | refl : Within v v
  | item {items : List (Position × Value)} {p : Position} {w : Value} :
      (p, w) ∈ items → Within v w → Within v (.array items)
  | entry {entries : List Entry} {key : Key} {p : Position} {w : Value} :
      (key, p, w) ∈ entries → Within v w → Within v (.table entries)

def Ascending {α : Type} (entries : List (Key × Position × α)) : Prop :=
  entries.Pairwise fun e e' => e.1.name < e'.1.name

def Value.Ordered (v : Value) : Prop := ∀ entries, Within (.table entries) v → Ascending entries

theorem Value.ordered_array {items : List (Position × Value)} (h : ∀ p v, (p, v) ∈ items → v.Ordered) :
    (Value.array items).Ordered := by
  intro entries hwithin
  cases hwithin with
  | item hmem hwithin => exact h _ _ hmem entries hwithin

theorem Value.ordered_table {entries : List Entry} (hasc : Ascending entries)
    (h : ∀ key p v, (key, p, v) ∈ entries → v.Ordered) : (Value.table entries).Ordered := by
  intro entries' hwithin
  cases hwithin with
  | refl => exact hasc
  | entry hmem hwithin => exact h _ _ _ hmem entries' hwithin

/-! ## Lookup -/

section
variable {name : String} {key : Key} {p : Position} {v : Value} {entries : List Entry}

theorem get?_cons_of_eq (h : key.name = name.toList) : Table.get? ((key, p, v) :: entries) name = some v := by
  simp [Table.get?, h]

theorem get?_cons_of_ne (h : key.name ≠ name.toList) :
    Table.get? ((key, p, v) :: entries) name = Table.get? entries name := by
  simp [Table.get?, h]

theorem exists_mem_of_get? (h : Table.get? entries name = some v) :
    ∃ key p, (key, p, v) ∈ entries ∧ key.name = name.toList := by
  obtain ⟨⟨key, p, w⟩, hfind, hw⟩ := Option.map_eq_some_iff.mp h
  cases hw
  exact ⟨key, p, List.mem_of_find?_eq_some hfind, by simpa using List.find?_some hfind⟩

theorem get?_eq_none (h : ∀ e ∈ entries, e.1.name ≠ name.toList) : Table.get? entries name = none := by
  rw [Option.eq_none_iff_forall_ne_some]
  intro v hv
  obtain ⟨key, p, hmem, hname⟩ := exists_mem_of_get? hv
  exact h _ hmem hname

theorem get?_of_mem (hasc : Ascending entries) (hmem : (key, p, v) ∈ entries) (hname : key.name = name.toList) :
    Table.get? entries name = some v := by
  induction entries with
  | nil => cases hmem
  | cons e entries ih =>
    obtain ⟨hlt, hasc⟩ := List.pairwise_cons.mp hasc
    cases hmem with
    | head => exact get?_cons_of_eq hname
    | tail _ hmem =>
      rw [get?_cons_of_ne (hname ▸ (hlt _ hmem).ne)]
      exact ih hasc hmem

end

/-! ## Nodes -/

inductive Node.Ordered : Node → Prop
  | value {v : Value} : v.Ordered → Ordered (.value v)
  | table {origin : Origin} {nodes : Nodes} : Ascending nodes →
      (∀ key p n, (key, p, n) ∈ nodes → Ordered n) → Ordered (.table origin nodes)
  | tables {items : List (Position × Nodes)} : (∀ p nodes, (p, nodes) ∈ items → Ascending nodes) →
      (∀ p nodes, (p, nodes) ∈ items → ∀ key p n, (key, p, n) ∈ nodes → Ordered n) → Ordered (.tables items)

structure NodesOrdered (nodes : Nodes) : Prop where
  ascending : Ascending nodes
  ordered : ∀ key p n, (key, p, n) ∈ nodes → n.Ordered

theorem nodesOrdered_nil : NodesOrdered [] := ⟨List.Pairwise.nil, fun _ _ _ h => absurd h List.not_mem_nil⟩

theorem nodesOrdered_cons {key : Key} {p : Position} {n : Node} {nodes : Nodes} :
    NodesOrdered ((key, p, n) :: nodes) ↔
      (∀ e ∈ nodes, key.name < e.1.name) ∧ n.Ordered ∧ NodesOrdered nodes := by
  constructor
  · intro ⟨hasc, hord⟩
    obtain ⟨hlt, hasc⟩ := List.pairwise_cons.mp hasc
    exact ⟨hlt, hord _ _ _ List.mem_cons_self, hasc, fun k p n h => hord k p n (List.mem_cons_of_mem _ h)⟩
  · intro ⟨hlt, hn, hasc, hord⟩
    refine ⟨List.pairwise_cons.mpr ⟨hlt, hasc⟩, fun k p' n' h => ?_⟩
    cases h with
    | head => exact hn
    | tail _ h => exact hord k p' n' h

theorem Node.ordered_table_iff {origin : Origin} {nodes : Nodes} :
    (Node.table origin nodes).Ordered ↔ NodesOrdered nodes := by
  constructor
  · intro h
    cases h with
    | table hasc hord => exact ⟨hasc, hord⟩
  · exact fun h => .table h.ascending h.ordered

theorem Node.ordered_tables_iff {items : List (Position × Nodes)} :
    (Node.tables items).Ordered ↔ ∀ p nodes, (p, nodes) ∈ items → NodesOrdered nodes := by
  constructor
  · intro h p nodes hmem
    cases h with
    | tables hasc hord => exact ⟨hasc p nodes hmem, hord p nodes hmem⟩
  · exact fun h => .tables (fun p nodes hmem => (h p nodes hmem).ascending)
      fun p nodes hmem => (h p nodes hmem).ordered

theorem toEntries_eq_map (nodes : Nodes) :
    toEntries nodes = nodes.map fun (k, p, n) => (k, p, n.toValue) := by
  induction nodes with
  | nil => simp [toEntries]
  | cons e nodes ih => simp [toEntries, ih]

theorem toItems_eq_map (items : List (Position × Nodes)) :
    toItems items = items.map fun (p, nodes) => (p, .table (toEntries nodes)) := by
  induction items with
  | nil => simp [toItems]
  | cons e items ih => simp [toItems, ih]

theorem ordered_toEntries {nodes : Nodes} (hasc : Ascending nodes)
    (h : ∀ key p n, (key, p, n) ∈ nodes → n.toValue.Ordered) : (Value.table (toEntries nodes)).Ordered := by
  rw [toEntries_eq_map]
  refine Value.ordered_table (List.pairwise_map.mpr hasc) ?_
  intro key p v hmem
  obtain ⟨⟨key', p', n⟩, hn, he⟩ := List.mem_map.mp hmem
  cases he
  exact h _ _ _ hn

theorem Node.Ordered.toValue {n : Node} (h : n.Ordered) : n.toValue.Ordered := by
  induction h with
  | value h => rwa [Node.toValue]
  | table hasc _ ih =>
    rw [Node.toValue]
    exact ordered_toEntries hasc ih
  | tables hasc _ ih =>
    rw [Node.toValue, toItems_eq_map]
    refine Value.ordered_array fun p v hmem => ?_
    obtain ⟨⟨p', nodes⟩, hnodes, he⟩ := List.mem_map.mp (List.mem_reverse.mp hmem)
    cases he
    exact ordered_toEntries (hasc _ _ hnodes) (ih _ _ hnodes)

theorem NodesOrdered.toEntries {nodes : Nodes} (h : NodesOrdered nodes) :
    (Value.table (toEntries nodes)).Ordered :=
  ordered_toEntries h.ascending fun key p n hmem => (h.ordered key p n hmem).toValue

/-! ## Steps -/

section
variable {α β ε : Type}

theorem bind_eq_ok {x : Except ε α} {f : α → Except ε β} {b : β} :
    (x >>= f) = .ok b ↔ ∃ a, x = .ok a ∧ f a = .ok b := by
  cases x with
  | ok a => exact ⟨fun h => ⟨a, rfl, h⟩, fun ⟨a', ha, h⟩ => Except.ok.inj ha ▸ h⟩
  | error e => exact ⟨nofun, fun ⟨_, ha, _⟩ => nomatch ha⟩

theorem map_eq_ok {x : Except ε α} {f : α → β} {b : β} : f <$> x = .ok b ↔ ∃ a, x = .ok a ∧ f a = b := by
  cases x with
  | ok a => exact ⟨fun h => ⟨a, rfl, Except.ok.inj h⟩, fun ⟨a', ha, h⟩ => Except.ok.inj ha ▸ congrArg _ h⟩
  | error e => exact ⟨nofun, fun ⟨_, ha, _⟩ => nomatch ha⟩

end

def Preserves (f : Nodes → Except Fault Nodes) : Prop :=
  ∀ nodes nodes', NodesOrdered nodes → f nodes = .ok nodes' → NodesOrdered nodes'

section
variable {key last : Key} {position : Position} {f : Option Node → Except Fault Node}
  {finish : Nodes → Except Fault Nodes}

theorem name_of_mem_update {nodes nodes' : Nodes} {e : Key × Position × Node}
    (h : update key position f nodes = .ok nodes') (he : e ∈ nodes') :
    e.1.name = key.name ∨ ∃ e' ∈ nodes, e'.1.name = e.1.name := by
  fun_induction update key position f nodes generalizing nodes' with
  | case1 =>
    obtain ⟨n, -, rfl⟩ := map_eq_ok.mp h
    obtain rfl := List.mem_singleton.mp he
    exact .inl rfl
  | case2 k p n nodes heq =>
    obtain ⟨n, -, rfl⟩ := map_eq_ok.mp h
    cases he with
    | head => exact .inl heq
    | tail _ he => exact .inr ⟨e, List.mem_cons_of_mem _ he, rfl⟩
  | case3 k p n nodes _ _ =>
    obtain ⟨n, -, rfl⟩ := map_eq_ok.mp h
    cases he with
    | head => exact .inl rfl
    | tail _ he => exact .inr ⟨e, he, rfl⟩
  | case4 k p n nodes _ _ ih =>
    obtain ⟨rest, hrest, rfl⟩ := map_eq_ok.mp h
    cases he with
    | head => exact .inr ⟨(k, p, n), List.mem_cons_self, rfl⟩
    | tail _ he =>
      obtain hname | ⟨e', he', hname⟩ := ih hrest he
      · exact .inl hname
      · exact .inr ⟨e', List.mem_cons_of_mem _ he', hname⟩

theorem update_preserves (hf : ∀ found n, (∀ m, found = some m → m.Ordered) → f found = .ok n → n.Ordered) :
    Preserves (update key position f) := by
  intro nodes nodes' hord h
  have hnew {n : Node} (h : f none = .ok n) : n.Ordered := hf none n nofun h
  fun_induction update key position f nodes generalizing nodes' with
  | case1 =>
    obtain ⟨n, hn, rfl⟩ := map_eq_ok.mp h
    exact nodesOrdered_cons.mpr ⟨by simp, hnew hn, nodesOrdered_nil⟩
  | case2 k p n nodes heq =>
    obtain ⟨hlt, hn, hrest⟩ := nodesOrdered_cons.mp hord
    obtain ⟨n', hn', rfl⟩ := map_eq_ok.mp h
    refine nodesOrdered_cons.mpr ⟨hlt, hf (some n) n' ?_ hn', hrest⟩
    intro m hm
    cases hm
    exact hn
  | case3 k p n nodes _ hbefore =>
    obtain ⟨n', hn', rfl⟩ := map_eq_ok.mp h
    refine nodesOrdered_cons.mpr ⟨fun e he => ?_, hnew hn', hord⟩
    cases he with
    | head => exact hbefore
    | tail _ he => exact lt_trans hbefore ((nodesOrdered_cons.mp hord).1 e he)
  | case4 k p n nodes hne hbehind ih =>
    obtain ⟨hlt, hn, hrest⟩ := nodesOrdered_cons.mp hord
    obtain ⟨rest, hupdate, rfl⟩ := map_eq_ok.mp h
    refine nodesOrdered_cons.mpr ⟨fun e he => ?_, hn, ih _ hrest hupdate⟩
    obtain hname | ⟨e', he', hname⟩ := name_of_mem_update hupdate he
    · rw [hname]
      exact lt_of_le_of_ne (not_lt.mp hbehind) hne
    · rw [← hname]
      exact hlt e' he'

theorem map_table_ordered {origin : Origin} {inner : Nodes} {n : Node} (hf : Preserves finish)
    (hinner : NodesOrdered inner) (h : Node.table origin <$> finish inner = .ok n) : n.Ordered := by
  obtain ⟨inner', hfinish, rfl⟩ := map_eq_ok.mp h
  exact Node.ordered_table_iff.mpr (hf inner inner' hinner hfinish)

theorem map_tables_ordered {p : Position} {inner : Nodes} {items : List (Position × Nodes)} {n : Node}
    (hf : Preserves finish) (hord : (Node.tables ((p, inner) :: items)).Ordered)
    (h : (fun inner => Node.tables ((p, inner) :: items)) <$> finish inner = .ok n) : n.Ordered := by
  rw [Node.ordered_tables_iff] at hord
  obtain ⟨inner', hfinish, rfl⟩ := map_eq_ok.mp h
  refine Node.ordered_tables_iff.mpr fun p' nodes hmem => ?_
  cases hmem with
  | head => exact hf inner inner' (hord _ _ List.mem_cons_self) hfinish
  | tail _ hmem => exact hord _ _ (List.mem_cons_of_mem _ hmem)

theorem alongDotted_preserves (hfinish : Preserves finish) (path : List Key) :
    Preserves (alongDotted last finish path) := by
  induction path with
  | nil => exact hfinish
  | cons key path ih =>
    refine update_preserves fun found n hfound h => ?_
    split at h
    · exact map_table_ordered ih nodesOrdered_nil h
    · exact map_table_ordered ih (Node.ordered_table_iff.mp (hfound _ rfl)) h
    · split at h
      · cases h
      · exact map_table_ordered ih (Node.ordered_table_iff.mp (hfound _ rfl)) h
    · cases h
    · split at h
      · cases h
      · exact map_tables_ordered ih (hfound _ rfl) h
    · cases h

theorem alongHeader_preserves (hfinish : Preserves finish) (path : List Key) :
    Preserves (alongHeader finish path) := by
  induction path with
  | nil => exact hfinish
  | cons key path ih =>
    refine update_preserves fun found n hfound h => ?_
    split at h
    · exact map_table_ordered ih nodesOrdered_nil h
    · exact map_table_ordered ih (Node.ordered_table_iff.mp (hfound _ rfl)) h
    · exact map_tables_ordered ih (hfound _ rfl) h
    · cases h

theorem addValue_preserves {n : Node} (hn : n.Ordered) (path : List Key) :
    Preserves (addValue path position n) := by
  intro nodes nodes' hord h
  rw [addValue] at h
  split at h
  · cases h
    exact hord
  · refine alongDotted_preserves (update_preserves fun found n' _ h' => ?_) _ nodes nodes' hord h
    split at h'
    · cases h'
      exact hn
    · cases h'

theorem openTable_preserves (ofArray : Bool) (path : List Key) :
    Preserves (openTable ofArray path position) := by
  intro nodes nodes' hord h
  rw [openTable] at h
  split at h
  · cases h
    exact hord
  · refine alongHeader_preserves (update_preserves fun found n hfound h' => ?_) _ nodes nodes' hord h
    split at h'
    · cases h'
      refine Node.ordered_tables_iff.mpr fun p inner hmem => ?_
      cases List.mem_singleton.mp hmem
      exact nodesOrdered_nil
    · cases h'
      have hitems := Node.ordered_tables_iff.mp (hfound _ rfl)
      refine Node.ordered_tables_iff.mpr fun p inner hmem => ?_
      cases hmem with
      | head => exact nodesOrdered_nil
      | tail _ hmem => exact hitems p inner hmem
    · cases h'
      exact Node.ordered_table_iff.mpr nodesOrdered_nil
    · cases h'
      exact Node.ordered_table_iff.mpr (Node.ordered_table_iff.mp (hfound _ rfl))
    · cases h'

end

/-! ## Documents -/

def Value.isScalar : Value → Bool
  | .array _ => false
  | .table _ => false
  | _ => true

theorem Value.ordered_of_isScalar {v : Value} (h : v.isScalar) : v.Ordered := by
  intro entries hwithin
  cases hwithin with
  | refl | item | entry => cases h

theorem isScalar_of_float? {token : Text} {v : Value} (h : float? token = some v) : v.isScalar := by
  simp only [float?] at h
  split at h
  · cases h
    rfl
  · split at h
    · cases h
      rfl
    · obtain ⟨m, -, rfl⟩ := Option.map_eq_some_iff.mp h
      rfl

theorem isScalar_of_bare? {token : Text} {v : Value} (h : bare? token = some v) : v.isScalar := by
  simp only [bare?] at h
  split at h
  · cases h
    rfl
  split at h
  · cases h
    rfl
  split at h
  · cases h
    rfl
  obtain h | ⟨-, h⟩ := Option.or_eq_some_iff.mp h
  · obtain ⟨n, -, rfl⟩ := Option.map_eq_some_iff.mp h
    rfl
  · exact isScalar_of_float? h

theorem Scalar.isScalar_read {s : Scalar} {position : Position} {v : Value} (h : s.read position = .ok v) :
    v.isScalar := by
  cases s with
  | quoted quotes closed body =>
    obtain ⟨content, -, rfl⟩ := map_eq_ok.mp h
    rfl
  | bare token =>
    rw [Scalar.read] at h
    split at h
    · next w hbare =>
      cases h
      exact isScalar_of_bare? hbare
    · cases h

mutual

theorem RawValue.ordered_read {position : Position} {v : Value} :
    ∀ raw : RawValue, raw.read position = .ok v → v.Ordered
  | .scalar s, h => by
    rw [RawValue.read] at h
    exact Value.ordered_of_isScalar (Scalar.isScalar_read h)
  | .array items, h => by
    rw [RawValue.read] at h
    obtain ⟨values, hvalues, rfl⟩ := map_eq_ok.mp h
    exact Value.ordered_array (ordered_readItems items hvalues)
  | .table entries, h => by
    rw [RawValue.read] at h
    obtain ⟨nodes, hnodes, rfl⟩ := map_eq_ok.mp h
    exact (readEntries_preserves entries [] nodes nodesOrdered_nil hnodes).toEntries

theorem ordered_readItems {values : List (Position × Value)} :
    ∀ items : List (Position × RawValue), readItems items = .ok values →
      ∀ p v, (p, v) ∈ values → v.Ordered
  | [], h => by
    cases h
    exact nofun
  | (p, raw) :: items, h => by
    rw [readItems] at h
    obtain ⟨value, hvalue, h⟩ := bind_eq_ok.mp h
    obtain ⟨rest, hrest, h⟩ := bind_eq_ok.mp h
    cases h
    intro p' v hmem
    cases hmem with
    | head => exact raw.ordered_read hvalue
    | tail _ hmem => exact ordered_readItems items hrest p' v hmem

theorem readEntries_preserves :
    ∀ entries : List (List RawKey × Position × RawValue), Preserves (readEntries · entries)
  | [], nodes, nodes', hord, h => by
    cases h
    exact hord
  | (path, p, raw) :: entries, nodes, nodes', hord, h => by
    simp only [readEntries] at h
    obtain ⟨path', -, h⟩ := bind_eq_ok.mp h
    obtain ⟨value, hvalue, h⟩ := bind_eq_ok.mp h
    obtain ⟨added, hadded, h⟩ := bind_eq_ok.mp h
    have hadd := addValue_preserves (.value (raw.ordered_read hvalue)) path' nodes added hord hadded
    exact readEntries_preserves entries added nodes' hadd h

end

theorem assemble_preserves (expressions : List Expression) (current : List Key) :
    Preserves (assemble current · expressions) := by
  induction expressions generalizing current with
  | nil =>
    intro nodes nodes' hord h
    cases h
    exact hord
  | cons expression expressions ih =>
    intro nodes nodes' hord h
    cases expression with
    | header ofArray path position =>
      simp only [assemble] at h
      obtain ⟨path', -, h⟩ := bind_eq_ok.mp h
      obtain ⟨opened, hopened, h⟩ := bind_eq_ok.mp h
      exact ih path' opened nodes' (openTable_preserves ofArray path' nodes opened hord hopened) h
    | entry path position raw =>
      simp only [assemble] at h
      obtain ⟨path', -, h⟩ := bind_eq_ok.mp h
      obtain ⟨value, hvalue, h⟩ := bind_eq_ok.mp h
      obtain ⟨added, hadded, h⟩ := bind_eq_ok.mp h
      have hadd : Preserves (addValue path' position (.value value)) :=
        addValue_preserves (.value (raw.ordered_read hvalue)) path'
      exact ih current added nodes' (alongHeader_preserves hadd current nodes added hord hadded) h

/-- No table of a document has a key twice, at any depth. -/
theorem ordered_of_parse {document : Text} {t : Table} (h : parse document = .ok t) :
    (Value.table t).Ordered := by
  obtain ⟨expressions, -, h⟩ := bind_eq_ok.mp h
  obtain ⟨nodes, hnodes, h⟩ := bind_eq_ok.mp h
  cases h
  exact (assemble_preserves expressions [] [] nodes nodesOrdered_nil hnodes).toEntries

end JiraMarkup.Toml
