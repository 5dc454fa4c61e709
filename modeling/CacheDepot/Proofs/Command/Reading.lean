import CacheDepot.Command.Invocation

/-!
# Command lines of the two commands

Both commands take the same options. A command line that is accepted with one of
them in the place of the command is accepted with the other, and then it asks for the
same; one that is refused is refused in the same words, and only help is help on
another command.
-/

namespace CacheDepot.Command

/-- Two readings go on alike, or end early alike but for what help is about. -/
inductive Alike {α : Type} : Except Invocation α → Except Invocation α → Prop
  | ok (value : α) : Alike (.ok value) (.ok value)
  | help (topic other : Topic) : Alike (.error (.help topic)) (.error (.help other))
  | version : Alike (.error .version) (.error .version)
  | misuse (mistake : Misuse) : Alike (.error (.misuse mistake)) (.error (.misuse mistake))

namespace Reading

/-!
## Steps that do not depend on the command

That such a step is like itself says that it never ends in a command to carry out.
-/

theorem setVerbose_alike (r : Reading) : Alike r.setVerbose r.setVerbose := by
  unfold setVerbose
  split
  · exact Alike.misuse _
  · exact Alike.ok _

theorem setJson_alike (r : Reading) : Alike r.setJson r.setJson := by
  unfold setJson
  split
  · exact Alike.misuse _
  · exact Alike.ok _

theorem take_alike (option : Valued) (value : String) (r : Reading) :
    Alike (r.take option value) (r.take option value) := by
  cases option with
  | setting => exact Alike.ok _
  | file =>
      unfold take
      dsimp only
      split
      · exact Alike.misuse _
      · split
        · exact Alike.misuse _
        · exact Alike.ok _

theorem takeOrAwait_alike (option : Valued) (value : Option String) (r : Reading) :
    Alike (r.takeOrAwait option value) (r.takeOrAwait option value) := by
  cases value with
  | none => exact Alike.ok _
  | some value => exact take_alike option value r

theorem settle_alike (r : Reading) : Alike r.settle r.settle := by
  unfold settle
  split
  · exact Alike.misuse _
  · exact Alike.ok _

/-! ## Steps that depend on the command -/

theorem switch_alike (name : String) (value : Option String) {effect effect' : Progress}
    (alike : Alike effect effect') :
    Alike (switch name value effect) (switch name value effect') := by
  cases value with
  | none => exact alike
  | some value => exact Alike.misuse _

theorem long_alike (action other : Action) (name : String) (value : Option String) (r : Reading) :
    Alike (r.long action name value) (r.long other name value) := by
  unfold long
  split
  · exact switch_alike _ _ (setVerbose_alike r)
  · exact switch_alike _ _ (setJson_alike r)
  · exact switch_alike _ _ (Alike.help _ _)
  · exact takeOrAwait_alike _ _ r
  · exact takeOrAwait_alike _ _ r
  · exact Alike.misuse _

theorem letters_alike (action other : Action) (given : List Char) (r : Reading) :
    Alike (letters action given r) (letters other given r) := by
  fun_induction letters action given r with
  | case1 r => exact Alike.ok r
  | case2 rest r next verbose ih =>
      rw [letters, verbose]
      exact ih
  | case3 rest r invocation refused =>
      rw [letters, refused]
      have alike := setVerbose_alike r
      rw [refused] at alike
      exact alike
  | case4 => exact Alike.help _ _
  | case5 value r => exact take_alike _ _ r
  | case6 r => exact Alike.ok _
  | case7 value r notEquals notAlone =>
      rw [letters]
      · exact take_alike _ _ r
      · exact notEquals
      · exact notAlone
  | case8 letter rest r =>
      -- The letter is none of those that stand for an option.
      rw [letters]
      · exact Alike.misuse _
      all_goals assumption

theorem next_alike (action other : Action) (argument : String) (r : Reading) :
    Alike (r.next action argument) (r.next other argument) := by
  unfold next
  split
  · exact take_alike _ _ r
  · exact Alike.misuse _
  · exact long_alike action other _ _ r
  · exact letters_alike action other _ r
  · exact Alike.misuse _

/-- The induction is on the arguments: the readings stay the same as long as both go on. -/
theorem readAll_alike (action other : Action) (arguments : List String) (r : Reading) :
    Alike (readAll action arguments r) (readAll other arguments r) := by
  induction arguments generalizing r with
  | nil => exact settle_alike r
  | cons argument rest ih =>
      unfold readAll
      split
      · cases rest with
        | nil => exact settle_alike r
        | cons extra more => exact Alike.misuse _
      · have step := next_alike action other argument r
        generalize r.next action argument = progress at step
        generalize r.next other argument = progress' at step
        cases step with
        | ok following => exact ih following
        | help topic topic' => exact Alike.help topic topic'
        | version => exact Alike.version
        | misuse mistake => exact Alike.misuse mistake

end Reading

namespace Action

@[simp]
theorem ofName?_name (action : Action) : ofName? action.name = some action := by
  cases action <;> rfl

theorem form_name (action : Action) : Form.ofArgument action.name = .plain := by
  cases action <;> rfl

theorem name_ne_help (action : Action) : action.name ≠ "help" := by
  cases action <;> decide

end Action

namespace Invocation

theorem ofOptions_eq_perform_iff (action other : Action) (verbose : Bool) (arguments : List String)
    (options : Options) :
    ofOptions action verbose arguments = .perform action options ↔
      ofOptions other verbose arguments = .perform other options := by
  have alike := Reading.readAll_alike action other arguments {}
  unfold ofOptions
  generalize Reading.readAll action arguments {} = reading at alike
  generalize Reading.readAll other arguments {} = reading' at alike
  cases alike <;> simp

theorem ofArgumentsFrom_name (action : Action) (verbose : Bool) (arguments : List String) :
    ofArgumentsFrom verbose (action.name :: arguments) = ofOptions action verbose arguments := by
  rw [ofArgumentsFrom, action.form_name]
  simp only [if_neg action.name_ne_help, Action.ofName?_name]

theorem leadingLong_alike (name : String) (value : Option String) (verbose : Bool) :
    Alike (leadingLong name value verbose) (leadingLong name value verbose) := by
  unfold leadingLong
  split
  · split
    · exact Alike.misuse _
    · exact Alike.ok _
  · exact Alike.help _ _
  · exact Alike.version
  · exact Alike.misuse _
  · exact Alike.misuse _

theorem leadingLetters_alike (letters : List Char) (verbose : Bool) :
    Alike (leadingLetters letters verbose) (leadingLetters letters verbose) := by
  fun_induction leadingLetters letters verbose with
  | case1 verbose => exact Alike.ok verbose
  | case2 => exact Alike.misuse _
  | case3 rest verbose fresh ih => exact ih
  | case4 => exact Alike.help _ _
  | case5 => exact Alike.version
  | case6 => exact Alike.misuse _

/-- Arguments in front of the command are read before it is known which command it is. -/
theorem ofArgumentsFrom_eq_perform_iff {leading : List String}
    (before : ∀ argument ∈ leading, Form.ofArgument argument ≠ .plain) (action other : Action)
    (verbose : Bool) (arguments : List String) (options : Options) :
    ofArgumentsFrom verbose (leading ++ action.name :: arguments) = .perform action options ↔
      ofArgumentsFrom verbose (leading ++ other.name :: arguments) = .perform other options := by
  induction leading generalizing verbose with
  | nil =>
      rw [List.nil_append, List.nil_append, ofArgumentsFrom_name, ofArgumentsFrom_name]
      exact ofOptions_eq_perform_iff action other verbose arguments options
  | cons argument rest ih =>
      have ih := ih fun other otherMem => before other (List.mem_cons_of_mem argument otherMem)
      have notPlain := before argument List.mem_cons_self
      rw [List.cons_append, List.cons_append, ofArgumentsFrom, ofArgumentsFrom]
      cases form : Form.ofArgument argument with
      | plain => exact absurd form notPlain
      | separator => simp
      | long name value =>
          dsimp only
          have alike := leadingLong_alike name value verbose
          generalize leadingLong name value verbose = settled at alike ⊢
          cases alike with
          | ok verbose => exact ih verbose
          | _ => simp
      | letters letters =>
          dsimp only
          have alike := leadingLetters_alike letters verbose
          generalize leadingLetters letters verbose = settled at alike ⊢
          cases alike with
          | ok verbose => exact ih verbose
          | _ => simp

end Invocation

end CacheDepot.Command
