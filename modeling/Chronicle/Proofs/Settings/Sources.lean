import Chronicle.Proofs.Settings.Guess
import Chronicle.Settings.Load

/-!
# Sources of settings

Each member is taken from the variable of its name, else from the file, else from the standard settings. The
path of the database takes part in the guess that is made of every variable.
-/
namespace Chronicle.Settings
open Setting

variable {file : List (String × Setting)} {environment : List (String × String)} {name path value : String}
  {s : Settings}

/-! ## The path of the database -/

/-- A guess is a value that has a text. -/
theorem exists_asText?_guess (path : String) :
    ∃ t, (guess path).asText? = some t ∧ databaseMember? (some (guess path)) = some (some t) := by
  have hguess := guessed path
  generalize guess path = v at hguess
  cases hguess <;> exact ⟨_, rfl, rfl⟩

theorem plain_memoryPath : Plain memoryPath := by decide +kernel

/-- Nothing but the path of memory is printed as it. -/
theorem asText?_guess_eq_memoryPath_iff : (guess path).asText? = some memoryPath ↔ path = memoryPath := by
  constructor
  · have hguess := guessed path
    generalize guess path = v at hguess
    intro h
    cases hguess with
    | yes => exact absurd h (by decide)
    | no => exact absurd h (by decide)
    | @integer i hi =>
      obtain ⟨hlow, hhigh⟩ := range_of_integerOfText? hi
      have hread := integerOfText?_toString hlow hhigh
      rw [Option.some.inj h] at hread
      obtain ⟨x, hx⟩ := ofText?_of_integerOfText? hread
      rw [plain_memoryPath.no_number] at hx
      cases hx
    | @float x hinteger hx =>
      have htext : x.text = memoryPath := Option.some.inj h
      have hnan : x.isNaN = false := by
        rw [← Bool.not_eq_true]
        intro hnan
        rw [Binary64.text_of_isNaN hnan] at htext
        exact absurd htext (by decide)
      have hread := Binary64.ofText?_text hnan
      rw [htext, plain_memoryPath.no_number] at hread
      cases hread
    | text => exact Option.some.inj h
  · rintro rfl
    rw [guess_of_plain plain_memoryPath]
    rfl

/-! ## Members -/

theorem member?_append (file later : List (String × Setting)) (name : String) :
    member? (file ++ later) name = (member? later name).or (member? file name) := by
  unfold member?
  rw [List.reverse_append, List.find?_append, Option.map_or]

theorem ofMembers?_eq_some_iff {settings : List (String × Setting)} : ofMembers? settings = some s ↔
    databaseMember? (member? settings "database") = some s.database ∧
    flagMember? standard.caseInsensitiveKeys (member? settings "case_insensitive_keys") =
      some s.caseInsensitiveKeys ∧
    flagMember? standard.enforceInterval (member? settings "enforce_interval") = some s.enforceInterval := by
  unfold ofMembers?
  simp only [Option.bind_eq_bind, Option.bind_eq_some_iff, Option.some.injEq]
  constructor
  · rintro ⟨database, hdatabase, keys, hkeys, interval, hinterval, rfl⟩
    exact ⟨hdatabase, hkeys, hinterval⟩
  · rintro ⟨hdatabase, hkeys, hinterval⟩
    exact ⟨_, hdatabase, _, hkeys, _, hinterval, rfl⟩

section Layers

variable [Formats] {source : Option Source}

/-! ## Layers -/

/-- The variable that decides a member: of those that set it or have a path into it the last one. -/
def deciding? (environment : List (String × String)) (name : String) : Option (String × String) :=
  environment.reverse.find? fun e => (ofVariable? e.1 e.2).any fun m => m.1 == name

def fromEnvironment? (environment : List (String × String)) (name : String) : Option Setting :=
  (deciding? environment name).bind fun e => (ofVariable? e.1 e.2).map Prod.snd

/-- What the file sets; nothing if there is no file. -/
def fileSettings? : Option Source → Option (List (String × Setting))
  | none => some []
  | some source => Formats.members? source

/-- A flag of its own variable, else of the file, else as it is by default. -/
def flag? (file : List (String × Setting)) (environment : List (String × String)) (name : String)
    (default : Bool) : Option Bool :=
  match fromEnvironment? environment name, member? file name with
  | some v, _ => v.asBoolean?
  | none, some v => v.asBoolean?
  | none, none => some default

/-- Whether both flags of settings are what their sources say. -/
def Flagged (file : List (String × Setting)) (environment : List (String × String)) (s : Settings) : Prop :=
  flag? file environment "case_insensitive_keys" standard.caseInsensitiveKeys = some s.caseInsensitiveKeys ∧
    flag? file environment "enforce_interval" standard.enforceInterval = some s.enforceInterval

instance (file : List (String × Setting)) (environment : List (String × String)) (s : Settings) :
    Decidable (Flagged file environment s) := inferInstanceAs (Decidable (_ ∧ _))

/-- A variable with the name of a member sets it to what is guessed of its value. -/
theorem ofVariable?_of_isPlainKey (h : small name = variablePrefix ++ path) (hplain : isPlainKey path = true) :
    ofVariable? name value = some (path, guess value) := by
  have hname : (small name).toList = variablePrefix.toList ++ path.toList := by
    rw [h, String.toList_append]
  unfold ofVariable?
  dsimp only
  rw [hname, if_pos (List.isPrefixOf_iff_prefix.2 (List.prefix_append ..)), List.drop_left,
    String.ofList_toList, Formats.into?_of_isPlainKey hplain]

theorem member?_environment (environment : List (String × String)) (name : String) :
    member? (environment.filterMap fun e => ofVariable? e.1 e.2) name = fromEnvironment? environment name := by
  unfold member? fromEnvironment? deciding?
  rw [← List.filterMap_reverse, List.find?_filterMap]
  cases environment.reverse.find? fun e => (ofVariable? e.1 e.2).any fun m => m.1 == name <;> rfl

/-- Variables take precedence over the file. -/
theorem member?_layered (file : List (String × Setting)) (environment : List (String × String)) (name : String) :
    member? (file ++ environment.filterMap fun e => ofVariable? e.1 e.2) name =
      (fromEnvironment? environment name).or (member? file name) := by
  rw [member?_append, member?_environment]

theorem flagMember?_layered (file : List (String × Setting)) (environment : List (String × String))
    (name : String) (default : Bool) :
    flagMember? default (member? (file ++ environment.filterMap fun e => ofVariable? e.1 e.2) name) =
      flag? file environment name default := by
  rw [member?_layered]
  unfold flag?
  cases fromEnvironment? environment name with
  | some v => rfl
  | none => cases member? file name <;> rfl

/-! ## Loading -/

/-- The members that the file and the environment set, one after the other. -/
def fromSources? (source : Option Source) (environment : List (String × String)) : Option Settings :=
  (fileSettings? source).bind fun file =>
    ofMembers? (file ++ environment.filterMap fun e => ofVariable? e.1 e.2)

theorem load_eq (source : Option Source) (environment : List (String × String)) :
    load source environment = (fromSources? source environment).elim (.error .settings) .ok := by
  unfold load fromSources? fileSettings?
  cases source with
  | none =>
    dsimp only
    cases (some []).bind fun file : List (String × Setting) =>
      ofMembers? (file ++ environment.filterMap fun e => ofVariable? e.1 e.2) <;> rfl
  | some source =>
    dsimp only
    cases (Formats.members? source).bind fun file =>
      ofMembers? (file ++ environment.filterMap fun e => ofVariable? e.1 e.2) <;> rfl

/-- Loading takes every member from its sources, and fails if one of them is no value of it. -/
theorem load_eq_ok_iff : load source environment = .ok s ↔ ∃ file, fileSettings? source = some file ∧
    databaseMember? ((fromEnvironment? environment "database").or (member? file "database")) =
      some s.database ∧ Flagged file environment s := by
  have hload : load source environment = .ok s ↔ fromSources? source environment = some s := by
    rw [load_eq]
    cases fromSources? source environment with
    | none => exact ⟨nofun, nofun⟩
    | some t => rw [Option.elim_some, Except.ok.injEq, Option.some.injEq]
  rw [hload, fromSources?, Option.bind_eq_some_iff]
  refine exists_congr fun file => and_congr_right fun _ => ?_
  rw [ofMembers?_eq_some_iff, flagMember?_layered, flagMember?_layered, member?_layered, Flagged]

/-- The variable of the database takes precedence over the file, but its text is kept only if no truth value
and no number is written with it, or if this value is printed in the same way. -/
theorem load_of_fromEnvironment (h : deciding? environment "database" = some (name, path))
    (hname : small name = variablePrefix ++ "database") :
    (∀ s, load source environment = .ok s ↔ ∃ file, fileSettings? source = some file ∧
      s.database = (guess path).asText? ∧ Flagged file environment s) ∧
    ∀ s, load source environment = .ok s → s.database.isSome ∧
      (s.database = some path ↔ Plain path ∨ Printed path) ∧
      (s.place = .memory ↔ path = memoryPath) ∧
      (s.place = (if path = memoryPath then .memory else .file path) ↔ Plain path ∨ Printed path) := by
  obtain ⟨t, htext, hmember⟩ := exists_asText?_guess path
  have hguess : fromEnvironment? environment "database" = some (guess path) := by
    rw [fromEnvironment?, h, Option.bind_some, ofVariable?_of_isPlainKey hname (by decide +kernel)]
    rfl
  have hload (s : Settings) : load source environment = .ok s ↔ ∃ file, fileSettings? source = some file ∧
      s.database = (guess path).asText? ∧ Flagged file environment s := by
    rw [load_eq_ok_iff, hguess, htext]
    refine exists_congr fun file => and_congr_right fun _ => and_congr_left fun _ => ?_
    change databaseMember? (some (guess path)) = _ ↔ _
    rw [hmember, Option.some.injEq, eq_comm]
  refine ⟨hload, fun s hs => ?_⟩
  obtain ⟨-, -, hdatabase, -⟩ := (hload s).1 hs
  have hkept : s.database = some path ↔ Plain path ∨ Printed path := by
    rw [hdatabase, asText?_guess_eq_self_iff]
  have hmemory : s.place = .memory ↔ path = memoryPath := by
    rw [place_eq_memory_iff, hdatabase, asText?_guess_eq_memoryPath_iff, htext]
    exact or_iff_right nofun
  have hsome : s.database = some t := hdatabase.trans htext
  refine ⟨by rw [hsome]; rfl, hkept, hmemory, ?_⟩
  rw [← hkept, hsome, Option.some.injEq]
  by_cases hpath : path = memoryPath
  · have ht : t = memoryPath :=
      Option.some.inj (htext.symm.trans (asText?_guess_eq_memoryPath_iff.2 hpath))
    rw [if_pos hpath]
    exact iff_of_true (hmemory.2 hpath) (ht.trans hpath.symm)
  · have hne : t ≠ memoryPath := fun heq =>
      hpath (asText?_guess_eq_memoryPath_iff.1 (htext.trans (congrArg some heq)))
    have hplace : s.place = .file t := by
      unfold place
      rw [hsome]
      exact if_neg hne
    rw [hplace, if_neg hpath, Place.file.injEq]

end Layers

theorem load_of_fromEnvironment_archive :
    let source : Source := ⟨"toml", some "database = \"events.sqlite\"\ncase_insensitive_keys = true"⟩
    let environment := [("CATALOGUE_DATABASE", "archive.sqlite"), ("Catalogue_Enforce_Interval", "yes")]
    deciding? environment "database" = some ("CATALOGUE_DATABASE", "archive.sqlite") ∧
      load source environment = .ok ⟨some "archive.sqlite", true, true⟩ ∧
      (⟨some "archive.sqlite", true, true⟩ : Settings).place = .file "archive.sqlite" := by
  intro source environment
  have hvariable : deciding? environment "database" = some ("CATALOGUE_DATABASE", "archive.sqlite") := by
    decide +kernel
  obtain ⟨hload, hkept⟩ := @load_of_fromEnvironment environment _ _ formats source hvariable (by decide +kernel)
  have hok : load source environment = .ok ⟨some "archive.sqlite", true, true⟩ :=
    (hload _).2
      ⟨[("database", .text "events.sqlite"), ("case_insensitive_keys", .boolean true)], by decide +kernel⟩
  exact ⟨hvariable, hok, (hkept _ hok).2.2.2.2 (.inl (by decide +kernel))⟩

/-- Digits, a power of ten and a truth value in large letters are not kept; in a file they are. -/
theorem not_kept_digits :
    (load none [("CATALOGUE_DATABASE", "007")] = .ok ⟨some "7", false, false⟩ ∧
      (⟨some "7", false, false⟩ : Settings).place = .file "7") ∧
    load none [("CATALOGUE_DATABASE", "1e3")] = .ok ⟨some "1000", false, false⟩ ∧
    load none [("CATALOGUE_DATABASE", "TRUE")] = .ok ⟨some "true", false, false⟩ ∧
    load (some ⟨"toml", some "database = \"007\""⟩) [] = .ok ⟨some "007", false, false⟩ := by
  decide +kernel

end Chronicle.Settings
