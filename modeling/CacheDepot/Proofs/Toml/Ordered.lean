import CacheDepot.Proofs.Json.Merging
import CacheDepot.Toml.Document

/-!
# Documents as objects

A document that is read stands for an object whose keys are in ascending order, and
so are the keys of the objects right under them. Tables owe this to the way in which
they are turned into objects, and inline tables are such tables too.
-/

namespace CacheDepot.Toml

open Json.Fields (Ascending)

/-! ## Values -/

theorem fields_floatValue {negative : Bool} {digits : List Char} {exponent : Int} {value : Json}
    (computed : floatValue negative digits exponent = some value) : value.fields = [] := by
  unfold floatValue at computed
  simp only at computed
  split at computed
  · cases computed
    rfl
  · split at computed
    · cases computed
      rfl
    · contradiction

theorem fields_intValue {negative : Bool} {size : Nat} {value : Json}
    (computed : intValue negative size = some value) : value.fields = [] := by
  simp only [intValue, Option.ite_none_right_eq_some, Option.some.injEq] at computed
  obtain ⟨-, rfl⟩ := computed
  rfl

theorem fields_readFloat {text rest : List Char} {value : Json}
    (read : readFloat text = some (value, rest)) : value.fields = [] := by
  simp only [readFloat, Option.bind_eq_bind, Option.bind_eq_some_iff, Option.ite_none_left_eq_some,
    Option.some.injEq, Prod.mk.injEq] at read
  obtain ⟨_, -, _, -, _, -, -, _, computed, rfl, -⟩ := read
  exact fields_floatValue computed

theorem fields_readBased {base : Nat} {isDigit : Char → Bool} {text rest : List Char} {value : Json}
    (read : readBased base isDigit text = some (value, rest)) : value.fields = [] := by
  simp only [readBased, Option.bind_eq_bind, Option.bind_eq_some_iff, Option.some.injEq,
    Prod.mk.injEq] at read
  obtain ⟨_, -, _, computed, rfl, -⟩ := read
  exact fields_intValue computed

theorem fields_readInt {text rest : List Char} {value : Json}
    (read : readInt text = some (value, rest)) : value.fields = [] := by
  unfold readInt at read
  split at read
  · exact fields_readBased read
  · exact fields_readBased read
  · exact fields_readBased read
  · simp only [Option.bind_eq_bind, Option.bind_eq_some_iff, Option.some.injEq,
      Prod.mk.injEq] at read
    obtain ⟨_, -, _, computed, rfl, -⟩ := read
    exact fields_intValue computed

theorem fields_readSpecial {text rest : List Char} {value : Json}
    (read : readSpecial text = some (value, rest)) : value.fields = [] := by
  unfold readSpecial at read
  split at read
  · cases read
    rfl
  · cases read
    rfl
  · contradiction

theorem fields_readNumber {text rest : List Char} {value : Json}
    (read : readNumber text = some (value, rest)) : value.fields = [] := by
  unfold readNumber at read
  split at read
  · exact fields_readFloat read
  · split at read
    · next found special =>
        cases read
        exact fields_readSpecial special
    · exact fields_readInt read

theorem ascending_readScalar {text rest : List Char} {value : Json}
    (read : readScalar text = some (value, rest)) : Ascending value.fields := by
  unfold readScalar at read
  split at read
  · cases read
    exact Ascending.nil
  · cases read
    exact Ascending.nil
  · split at read
    · cases read
      exact Ascending.nil
    · split at read
      · cases read
        exact List.pairwise_singleton _ _
      · rw [fields_readNumber read]
        exact Ascending.nil

theorem ascending_toJson (entries : Entries) : Ascending entries.toJson.fields :=
  Json.Fields.ascending_ofPairs _

theorem fields_readItems {depth fuel : Nat} {items : List Json} {text rest : List Char}
    {value : Json} (read : readItems depth fuel items text = some (value, rest)) :
    value.fields = [] := by
  induction fuel generalizing items text with
  | zero => contradiction
  | succ fuel ih =>
      rw [readItems] at read
      split at read
      · contradiction
      · cases read
        rfl
      · split at read
        · contradiction
        · split at read
          · exact ih read
          · cases read
            rfl
          · contradiction

theorem ascending_readFields {depth fuel : Nat} {entries : Entries} {text rest : List Char}
    {value : Json} (read : readFields depth fuel entries text = some (value, rest)) :
    Ascending value.fields := by
  induction fuel generalizing entries text with
  | zero => contradiction
  | succ fuel ih =>
      rw [readFields] at read
      split at read
      · split at read
        · contradiction
        · split at read
          · contradiction
          · split at read
            · exact ih read
            · cases read
              exact ascending_toJson _
            · contradiction
      · contradiction

theorem ascending_readValue {depth fuel : Nat} {text rest : List Char} {value : Json}
    (read : readValue depth fuel text = some (value, rest)) : Ascending value.fields := by
  unfold readValue at read
  split at read
  · contradiction
  · split at read
    · rw [fields_readItems read]
      exact Ascending.nil
    · contradiction
  · split at read
    · split at read
      · cases read
        exact Ascending.nil
      · exact ascending_readFields read
    · contradiction
  · exact ascending_readScalar read

/-! ## Tables under construction -/

/-- The keys of every plain value in a table are in ascending order. -/
def Entries.Tidy (entries : Entries) : Prop :=
  ∀ key value, (key, Item.value value) ∈ entries → Ascending value.fields

namespace Entries.Tidy

variable {entries : Entries}

theorem nil : Tidy [] := by
  intro key value valueMem
  cases valueMem

theorem cons_value {key : String} {value : Json} (tidy : Tidy entries)
    (ascending : Ascending value.fields) : Tidy ((key, .value value) :: entries) := by
  intro other present presentMem
  rcases List.mem_cons.mp presentMem with same | old
  · cases same
    exact ascending
  · exact tidy other present old

/-- What is not a plain value takes the place of anything. -/
theorem set (tidy : Tidy entries) {item : Item} (composite : ∀ value, item ≠ .value value)
    (key : String) : Tidy (entries.set key item) := by
  induction entries with
  | nil =>
      intro other value valueMem
      cases List.mem_singleton.mp valueMem
      exact absurd rfl (composite value)
  | cons entry rest ih =>
      obtain ⟨present, old⟩ := entry
      have restTidy : Tidy rest := fun other value valueMem =>
        tidy other value (List.mem_cons_of_mem _ valueMem)
      intro other value valueMem
      unfold Entries.set at valueMem
      split at valueMem
      · rcases List.mem_cons.mp valueMem with same | old
        · cases same
          exact absurd rfl (composite value)
        · exact restTidy other value old
      · rcases List.mem_cons.mp valueMem with same | later
        · exact tidy other value (same ▸ List.mem_cons_self)
        · exact ih restTidy other value later

theorem set_table (tidy : Tidy entries) (key : String) (origin : Origin) (inner : Entries) :
    Tidy (entries.set key (.table origin inner)) :=
  tidy.set (fun _ same => Item.noConfusion same) key

theorem set_tables (tidy : Tidy entries) (key : String) (elements : List Entries) :
    Tidy (entries.set key (.tables elements)) :=
  tidy.set (fun _ same => Item.noConfusion same) key

/-- A change further down leaves a table or an array of tables at the top. -/
theorem change {made origin : Origin} {act : Origin → Entries → Option Entries} {path : List String}
    {next : Entries} (tidy : Tidy entries)
    (acts : ∀ {origin entries next}, act origin entries = some next → Tidy entries → Tidy next)
    (changed : Entries.change made act origin entries path = some next) : Tidy next := by
  cases path with
  | nil => exact acts changed tidy
  | cons key path =>
      rw [Entries.change] at changed
      split at changed
      · obtain ⟨inner, -, rfl⟩ := Option.map_eq_some_iff.mp changed
        exact tidy.set_table key _ _
      · contradiction
      · contradiction
      · obtain ⟨inner, -, rfl⟩ := Option.map_eq_some_iff.mp changed
        exact tidy.set_tables key _
      · split at changed
        · contradiction
        · obtain ⟨inner, -, rfl⟩ := Option.map_eq_some_iff.mp changed
          exact tidy.set_table key _ _

theorem define {path : List String} {key : String} {value : Json} {next : Entries}
    (tidy : Tidy entries) (ascending : Ascending value.fields)
    (defined : entries.define path key value = some next) : Tidy next := by
  refine tidy.change ?_ defined
  intro origin target after acted targetTidy
  change (if _ then _ else _) = _ at acted
  split at acted
  · contradiction
  · split at acted
    · contradiction
    · cases acted
      exact targetTidy.cons_value ascending

theorem filter (tidy : Tidy entries) (kept : String × Item → Bool) :
    Tidy (entries.filter kept) :=
  fun key value valueMem => tidy key value ((List.mem_filter.mp valueMem).1)

end Entries.Tidy

/-! ## Documents -/

/-- The keys of a value that is set are in ascending order. -/
def Statement.Tidy : Statement → Prop
  | .setting _ value => Ascending value.fields
  | _ => True

theorem tidy_closeHeader {statement read : Statement} {brackets : Nat} {text rest : List Char}
    (closed : closeHeader statement brackets text = some (read, rest)) (tidy : statement.Tidy) :
    read.Tidy := by
  unfold closeHeader at closed
  split at closed
  · obtain ⟨_, -, same⟩ := Option.map_eq_some_iff.mp closed
    cases same
    exact tidy
  · contradiction

theorem tidy_readStatement {text rest : List Char} {statement : Statement}
    (read : readStatement text = some (statement, rest)) : statement.Tidy := by
  unfold readStatement at read
  split at read
  · obtain ⟨_, -, closed⟩ := Option.bind_eq_some_iff.mp read
    exact tidy_closeHeader closed trivial
  · obtain ⟨_, -, closed⟩ := Option.bind_eq_some_iff.mp read
    exact tidy_closeHeader closed trivial
  · split at read
    · obtain ⟨_, value, ended⟩ := Option.bind_eq_some_iff.mp read
      obtain ⟨_, -, same⟩ := Option.bind_eq_some_iff.mp ended
      cases same
      exact ascending_readValue value
    · contradiction

theorem tidy_readStatements {fuel : Nat} {before statements : List Statement} {text : List Char}
    (tidy : ∀ statement ∈ before, statement.Tidy)
    (read : readStatements fuel before text = some statements) :
    ∀ statement ∈ statements, statement.Tidy := by
  induction fuel generalizing before text with
  | zero => contradiction
  | succ fuel ih =>
      rw [readStatements] at read
      split at read
      · cases read
        exact fun statement statementMem => tidy statement (List.mem_reverse.mp statementMem)
      · split at read
        · exact ih tidy read
        · contradiction
      · split at read
        · exact ih tidy read
        · split at read
          · next statement next found =>
              refine ih ?_ read
              intro other otherMem
              rcases List.mem_cons.mp otherMem with rfl | old
              · exact tidy_readStatement found
              · exact tidy other old
          · contradiction

/-- The outermost table is tidy, also while it is the one that is open. -/
structure Draft.Tidy (draft : Draft) : Prop where
  root : draft.root.Tidy
  current : draft.path = [] → draft.current.Tidy

namespace Draft.Tidy

variable {draft : Draft}

theorem start : Draft.start.Tidy where
  root := Entries.Tidy.nil
  current _ := Entries.Tidy.nil

theorem close (tidy : draft.Tidy) {entries : Entries} (closed : draft.close = some entries) :
    entries.Tidy := by
  unfold Draft.close at closed
  split at closed
  · next outermost =>
      cases closed
      exact tidy.current (List.getLast?_eq_none_iff.mp outermost)
  · refine tidy.root.change ?_ closed
    intro origin parent next acted parentTidy
    change (if _ then _ else _) = _ at acted
    split at acted
    · split at acted
      · cases acted
        exact parentTidy.set_tables _ _
      · cases acted
        exact parentTidy.set_tables _ _
      · contradiction
    · split at acted
      · cases acted
        exact parentTidy.set_table _ _ _
      · contradiction
      · cases acted
        exact parentTidy.set_table _ _ _
      · contradiction

end Draft.Tidy

theorem tidy_openTable {root : Entries} (tidy : root.Tidy) {path : List String} {draft : Draft}
    (opened : Draft.openTable root path = some draft) : draft.Tidy := by
  obtain ⟨key, last, opened⟩ := Option.bind_eq_some_iff.mp opened
  obtain ⟨found, -, opened⟩ := Option.bind_eq_some_iff.mp opened
  obtain ⟨rest, removed, same⟩ := Option.bind_eq_some_iff.mp opened
  cases same
  constructor
  · refine tidy.change ?_ removed
    intro origin parent next acted parentTidy
    cases acted
    exact parentTidy.filter _
  · intro outermost
    change path = [] at outermost
    rw [outermost] at last
    cases last

theorem tidy_openElement {root : Entries} (tidy : root.Tidy) {path : List String} {draft : Draft}
    (opened : Draft.openElement root path = some draft) : draft.Tidy := by
  obtain ⟨key, last, opened⟩ := Option.bind_eq_some_iff.mp opened
  obtain ⟨next, prepared, same⟩ := Option.bind_eq_some_iff.mp opened
  cases same
  constructor
  · refine tidy.change ?_ prepared
    intro origin parent next acted parentTidy
    split at acted
    · cases acted
      exact parentTidy.set_tables _ _
    · cases acted
      exact parentTidy
    · contradiction
  · exact fun _ => Entries.Tidy.nil

theorem tidy_apply {draft next : Draft} (tidy : draft.Tidy) {statement : Statement}
    (statementTidy : statement.Tidy) (applied : draft.apply statement = some next) : next.Tidy := by
  cases statement with
  | table path =>
      obtain ⟨root, closed, opened⟩ := Option.bind_eq_some_iff.mp applied
      exact tidy_openTable (tidy.close closed) opened
  | element path =>
      obtain ⟨root, closed, opened⟩ := Option.bind_eq_some_iff.mp applied
      exact tidy_openElement (tidy.close closed) opened
  | setting path value =>
      obtain ⟨current, defined, same⟩ := Option.map_eq_some_iff.mp applied
      cases same
      constructor
      · exact tidy.root
      · exact fun outermost => (tidy.current outermost).define statementTidy defined

theorem tidy_build {draft : Draft} (tidy : draft.Tidy) {statements : List Statement}
    (statementsTidy : ∀ statement ∈ statements, statement.Tidy) {entries : Entries}
    (built : build draft statements = some entries) : entries.Tidy := by
  induction statements generalizing draft with
  | nil => exact tidy.close built
  | cons statement rest ih =>
      rw [build] at built
      split at built
      · next next applied =>
          exact ih (tidy_apply tidy (statementsTidy statement List.mem_cons_self) applied)
            (fun other otherMem => statementsTidy other (List.mem_cons_of_mem statement otherMem))
            built
      · contradiction

theorem ascending_item {item : Item}
    (plain : ∀ value, item = .value value → Ascending value.fields) :
    Ascending item.toJson.fields := by
  cases item with
  | value value => exact plain value rfl
  | table origin entries => exact ascending_toJson entries
  | tables elements => exact Ascending.nil

theorem Entries.Tidy.ascending {entries : Entries} (tidy : entries.Tidy) {key : String}
    {value : Json} (valueMem : (key, value) ∈ entriesToJson entries) : Ascending value.fields := by
  induction entries with
  | nil => cases valueMem
  | cons entry rest ih =>
      obtain ⟨present, item⟩ := entry
      rcases List.mem_cons.mp valueMem with same | later
      · cases same
        refine ascending_item fun plain same => tidy key plain ?_
        exact same ▸ List.mem_cons_self
      · exact ih (fun other plain plainMem =>
          tidy other plain (List.mem_cons_of_mem _ plainMem)) later

/-- A document is an object with its keys in ascending order, and so is each table in it. -/
theorem ofText?_eq_some {text : List Char} {layer : Json} (read : ofText? text = some layer) :
    layer.isObject ∧ Ascending layer.fields ∧
      ∀ key value, Json.Fields.get? key layer.fields = some value → Ascending value.fields := by
  obtain ⟨statements, statementsRead, read⟩ := Option.bind_eq_some_iff.mp read
  obtain ⟨entries, built, same⟩ := Option.bind_eq_some_iff.mp read
  cases same
  have statementsTidy := tidy_readStatements (List.forall_mem_nil _)
    statementsRead
  have tidy := tidy_build Draft.Tidy.start statementsTidy built
  exact ⟨rfl, ascending_toJson entries, fun key value found =>
    tidy.ascending (Json.Fields.mem_ofPairs (Named.mem_of_lookup found))⟩

end CacheDepot.Toml
