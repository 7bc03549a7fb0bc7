import RootObject.CommandLine.Program

/-!
Command lines with switches in front of the command's name. Switches that fit one another are taken in
one by one, each value when something follows it, and set what they say and nothing else
(`readFrom_leads`); then the command is read as if it stood alone (`readFrom_command`).
-/

namespace RootObject.CommandLine

/-- A switch in front of the command's name, with its value. -/
inductive Lead where
  | config (path : String)
  /-- A group of so many letters `v`, and one. -/
  | verbose (more : Nat)
  | logFormat (format : Log.Format)
  deriving DecidableEq, Repr

namespace Lead

def arguments : Lead → List String
  | .config path => ["--config", path]
  | .verbose more => [String.ofList ('-' :: 'v' :: List.replicate more 'v')]
  | .logFormat format => ["--log-format", format.name]

/-- What is set when the switch is taken in too, if it fits: no setting stands twice, and a path is not
empty and does not look like a switch. -/
def take? (given : Given) : Lead → Option Given
  | .config path =>
      if given.config = none ∧ path.isEmpty = false ∧ Shape.of path = .plain then
        some { given with config := some path }
      else none
  | .verbose more => some { given with verbosity := given.verbosity + (more + 1) }
  | .logFormat format =>
      if given.format = none then some { given with format := some format } else none

/-- What all switches set together, if they fit. -/
def given? (leads : List Lead) : Option Given :=
  leads.foldlM take? {}

end Lead

/-! ### Taking in switches -/

/-- This is what the arguments have set so far, and no value is waited for. -/
structure Progress.Sets (given : Given) (progress : Progress) : Prop where
  settled : progress.settled = .ok given
  ready : ∀ setting, progress.pending ≠ .setting setting

theorem sets_of_nothing (given : Given) : Progress.Sets given { given := given } where
  settled := rfl
  ready setting pending := by cases pending

variable {progress : Progress} {given given' : Given}

theorem entry?_of_sets (sets : progress.Sets given) (argument : String) :
    progress.entry? argument = Entry.ofName? argument := by
  have ready := sets.ready
  unfold Progress.entry?
  split
  · next setting pending => exact absurd pending (ready setting)
  · rfl

/-- No entry is called by a name with a hyphen in front. -/
theorem ofName?_hyphen (rest : List Char) : Entry.ofName? (String.ofList ('-' :: rest)) = none := by
  have names : ∀ entry ∈ Entry.all, entry.name.toList.head? ≠ some '-' := by decide
  refine List.find?_eq_none.mpr fun entry among => ?_
  intro named
  have same := of_decide_eq_true named
  apply names entry among
  rw [same, String.toList_ofList]
  rfl

theorem takesHyphens_program (progress : Progress) : progress.takesHyphens .program = false := by
  unfold Progress.takesHyphens Progress.operandAwaited?
  split
  · rfl
  · split <;> rfl

theorem flag_verbose (sets : progress.Sets given) :
    progress.flag .program .verbose =
      .ok { given := { given with verbosity := given.verbosity + 1 } } := by
  unfold Progress.flag
  rw [sets.settled]
  rfl

theorem foldlM_verbose (sets : progress.Sets given) (more : Nat) :
    ('v' :: List.replicate more 'v').foldlM (fun progress letter =>
        match Level.program.flagLettered? letter with
        | some flag => progress.flag .program flag
        | none => refuse (.unexpected ("-" ++ String.singleton letter))) progress =
      .ok { given := { given with verbosity := given.verbosity + (more + 1) } } := by
  induction more generalizing progress given with
  | zero =>
      rw [List.foldlM_cons]
      change (progress.flag .program .verbose >>= _) = _
      rw [flag_verbose sets]
      rfl
  | succ more ih =>
      rw [List.replicate_succ, List.foldlM_cons]
      change (progress.flag .program .verbose >>= _) = _
      rw [flag_verbose sets]
      have next := sets_of_nothing { given with verbosity := given.verbosity + 1 }
      refine (ih next).trans ?_
      rw [Nat.add_assoc, Nat.add_comm 1]

/-- Where an argument neither calls an entry nor ends the switches, it is taken in. -/
theorem readFrom_argument {argument : String} (noEntry : progress.entry? argument = none)
    (noDashes : Shape.of argument ≠ .dashes) (rest : List String) :
    readFrom progress (argument :: rest) =
      (do readFrom (← progress.argument .program argument) rest) := by
  rw [readFrom, noEntry]
  · exact fun isDashes _ => noDashes isDashes
  · exact fun _ _ isDashes _ => noDashes isDashes

/-- A setting whose value stands behind it is set when the value is looked into. -/
theorem readFrom_setting (setting : Setting) (sets : progress.Sets given) {value : String}
    (rest : List String) (isName : Shape.of ("--" ++ setting.name) = .long setting.name none)
    (noEntry : Entry.ofName? ("--" ++ setting.name) = none)
    (known : Level.program.switchNamed? setting.name = some (.setting setting))
    (isValue : Shape.of value = .plain) (set : given.set setting value = .ok given') :
    ∃ progress' : Progress, progress'.Sets given' ∧
      readFrom progress (("--" ++ setting.name) :: value :: rest) = readFrom progress' rest := by
  have named : progress.argument .program ("--" ++ setting.name) =
      .ok { given := given, pending := .setting setting } := by
    unfold Progress.argument
    simp only [isName, known, Progress.switch, sets.settled]
    rfl
  have valued : Progress.argument .program { given := given, pending := .setting setting } value =
      .ok { given := given, pending := .value setting value } := by
    unfold Progress.argument
    rw [isValue]
    rfl
  refine ⟨{ given := given, pending := .value setting value }, ⟨set, fun _ pending => by cases pending⟩, ?_⟩
  rw [readFrom_argument (by rw [entry?_of_sets sets, noEntry]) (by rw [isName]; exact Shape.noConfusion),
    named]
  change readFrom { given := given, pending := .setting setting } (value :: rest) = _
  rw [readFrom_argument rfl (by rw [isValue]; exact Shape.noConfusion), valued]
  rfl

theorem readFrom_lead (sets : progress.Sets given) {lead : Lead} (taken : lead.take? given = some given')
    (rest : List String) :
    ∃ progress' : Progress, progress'.Sets given' ∧
      readFrom progress (lead.arguments ++ rest) = readFrom progress' rest := by
  cases lead with
  | config path =>
      obtain ⟨⟨unset, some, isValue⟩, same⟩ := Option.ite_none_right_eq_some.mp taken
      cases same
      refine readFrom_setting .config sets rest (by decide) (by decide) (by decide) isValue ?_
      simp [Given.set, Given.isSet, unset, some]
  | verbose more =>
      cases taken
      refine ⟨_, sets_of_nothing _, ?_⟩
      change readFrom progress (String.ofList ('-' :: 'v' :: List.replicate more 'v') :: rest) = _
      have shape : Shape.of (String.ofList ('-' :: 'v' :: List.replicate more 'v')) =
          .group ('v' :: List.replicate more 'v') := by
        unfold Shape.of
        rw [String.toList_ofList]
        rfl
      have read : progress.argument .program (String.ofList ('-' :: 'v' :: List.replicate more 'v')) =
          .ok { given := { given with verbosity := given.verbosity + (more + 1) } } := by
        unfold Progress.argument
        simp only [shape, takesHyphens_program, Bool.false_and, Bool.false_eq_true, if_false]
        exact foldlM_verbose sets more
      rw [readFrom_argument (by rw [entry?_of_sets sets, ofName?_hyphen])
        (by rw [shape]; exact Shape.noConfusion), read]
      rfl
  | logFormat format =>
      obtain ⟨unset, same⟩ := Option.ite_none_right_eq_some.mp taken
      cases same
      have isValue : Shape.of format.name = .plain := by
        cases format <;> decide
      refine readFrom_setting .logFormat sets rest (by decide) (by decide) (by decide) isValue ?_
      have named : format.name.isEmpty = false ∧ Log.Format.ofName? format.name = some format := by
        cases format <;> decide
      simp [Given.set, Given.isSet, unset, named.1, named.2]

/-- Switches are taken in one after another, and what follows them is read with what they have set. -/
theorem readFrom_leads {leads : List Lead} (sets : progress.Sets given)
    (taken : leads.foldlM Lead.take? given = some given') (rest : List String) :
    ∃ progress' : Progress, progress'.Sets given' ∧
      readFrom progress (leads.flatMap Lead.arguments ++ rest) = readFrom progress' rest := by
  induction leads generalizing progress given with
  | nil =>
      cases taken
      exact ⟨progress, sets, rfl⟩
  | cons lead leads ih =>
      rw [List.foldlM_cons] at taken
      obtain ⟨next, first, later⟩ := Option.bind_eq_some_iff.mp taken
      rw [List.flatMap_cons, List.append_assoc]
      obtain ⟨between, setsNext, read⟩ := readFrom_lead sets first (leads.flatMap Lead.arguments ++ rest)
      obtain ⟨last, setsLast, readLast⟩ := ih setsNext later
      exact ⟨last, setsLast, read.trans readLast⟩

/-! ### The command -/

/-- What the arguments behind a command's name set and ask for. -/
def readCommand (verb : Verb) (arguments : List String) : Except Diversion (Given × Command) := do
  let own ← (← readOperands verb {} arguments).settled
  return (own, ← own.commandOf verb)

/-- The invocation of a command, of what stands in front of it and of what it sets itself. -/
def Given.invocation (given own : Given) (command : Command) : Invocation where
  config := given.config
  verbosity := if own.verbosity = 0 then given.verbosity else own.verbosity
  format := own.format.or given.format
  command := command

/-- Switches that stand in front of a command are no part of what the command itself reads. -/
theorem read_leads {leads : List Lead} (fit : Lead.given? leads = some given) (verb : Verb)
    (rest : List String) :
    read (leads.flatMap Lead.arguments ++ verb.name :: rest) =
      (readCommand verb rest).map fun (own, command) => given.invocation own command := by
  obtain ⟨progress, sets, front⟩ := readFrom_leads (sets_of_nothing {}) fit (verb.name :: rest)
  have called : progress.entry? verb.name = some (.command verb) :=
    (entry?_of_sets sets verb.name).trans (Entry.ofName?_name (.command verb))
  have noDashes : Shape.of verb.name ≠ .dashes := by
    cases verb <;> decide
  rw [read, front, readFrom, called]
  · simp only [readCommand, sets.settled, bind, Except.bind]
    cases readOperands verb {} rest with
    | error diversion => rfl
    | ok operands =>
        cases settled : operands.settled with
        | error diversion => simp only [settled, Except.map]
        | ok own =>
            simp only [settled]
            cases own.commandOf verb <;> rfl
  · exact fun isDashes _ => noDashes isDashes
  · exact fun _ _ isDashes _ => noDashes isDashes

/-! ### Counts -/

/-- A count does not begin like a switch. -/
theorem shape_of_count {text : String} {n : Nat} (counts : parseCount text = .ok n) :
    Shape.of text = .plain := by
  unfold parseCount at counts
  unfold Shape.of
  split
  · next same => simp [same, countAfter, Literal.digitValue?] at counts
  · next rest same => simp [same, countAfter, Literal.digitValue?] at counts
  · next letter letters _ same => simp [same, countAfter, Literal.digitValue?] at counts
  · rfl

/-- A command that can be repeated is asked for so many times. -/
theorem readCommand_count {verb : Verb} (repeats : verb.repeats = true) {text : String} {n : Nat}
    (counts : parseCount text = .ok n) :
    readCommand verb ["--count", text] =
      (Given.commandOf { count := some n } verb).map fun command => ({ count := some n }, command) := by
  have named : Progress.argument (.command verb) {} "--count" =
      .ok { pending := .setting .count } := by
    cases verb <;> first | rfl | cases repeats
  have isValue := shape_of_count counts
  have valued : Progress.argument (.command verb) { pending := .setting .count } text =
      .ok { pending := .value .count text } := by
    unfold Progress.argument
    rw [isValue]
    rfl
  have settled : Progress.settled { pending := .value .count text } = .ok { count := some n } := by
    simp [Progress.settled, Given.set, Given.isSet, counts]
  unfold readCommand
  rw [readOperands, if_neg (by decide), named]
  simp only [bind, Except.bind, readOperands, isValue, reduceCtorEq, if_false, valued, settled]
  cases Given.commandOf { count := some n } verb <;> rfl

end RootObject.CommandLine
