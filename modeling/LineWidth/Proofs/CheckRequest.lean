import LineWidth.CommandLine.Run
import LineWidth.Proofs.SettingChanges
import Mathlib.Data.Option.Basic

/-! # What a command line asks for

Of an option that is given several times only the last one counts. `CheckRequest.lastGiven?_changes`
carries this from the arguments to the changes that a request makes to the settings: a setting is
changed exactly when its option is given, and to what its option was given last.
-/

namespace LineWidth

private theorem nodup_eraseDups {α : Type} [BEq α] [LawfulBEq α] (items : List α) :
    items.eraseDups.Nodup := by
  match items with
  | [] => exact List.nodup_nil
  | item :: rest =>
    have shorter : (rest.filter fun other => !other == item).length < rest.length + 1 :=
      Nat.lt_succ_of_le (List.length_filter_le ..)
    rw [List.eraseDups_cons, List.nodup_cons]
    refine ⟨fun member => ?_, nodup_eraseDups _⟩
    have other := (List.mem_filter.mp (List.mem_eraseDups.mp member)).2
    simp at other
termination_by items.length

namespace Arguments

variable {ω : Type} [BEq ω] [LawfulBEq ω]

/-- What an option was given last. -/
def last? (arguments : Arguments ω) (option : ω) : Option Given :=
  (arguments.given.reverse.find? (·.1 == option)).map (·.2)

variable {arguments : Arguments ω} {option : ω} {given : Given}

private theorem last?_eq_some_iff :
    arguments.last? option = some given ↔
      arguments.given.reverse.find? (·.1 == option) = some (option, given) := by
  constructor
  · intro found
    obtain ⟨⟨other, value⟩, last, rfl⟩ := Option.map_eq_some_iff.mp found
    have same := List.find?_some last
    obtain rfl : other = option := beq_iff_eq.mp same
    exact last
  · intro last
    rw [last?, last]
    rfl

/-- The settled options are those given, with what they were given last. -/
private theorem mem_settled_iff : (option, given) ∈ arguments.settled ↔
    arguments.last? option = some given := by
  rw [last?_eq_some_iff, settled, List.mem_filterMap]
  constructor
  · rintro ⟨other, -, found⟩
    have same := List.find?_some found
    obtain rfl : option = other := beq_iff_eq.mp same
    exact found
  · intro found
    have member := List.mem_reverse.mp (List.mem_of_find?_eq_some found)
    exact ⟨option, List.mem_eraseDups.mpr (List.mem_map_of_mem member), found⟩

/-- No option is settled twice. -/
private theorem settled_pairwise :
    arguments.settled.Pairwise fun first second => first.1 ≠ second.1 := by
  rw [settled, List.pairwise_filterMap]
  apply List.Pairwise.imp _ (nodup_eraseDups _)
  intro first second different one found other also
  have atFirst := List.find?_some found
  have atSecond := List.find?_some also
  rw [beq_iff_eq.mp atFirst, beq_iff_eq.mp atSecond]
  exact different

end Arguments

/-- The value that a setting is changed to by what its option was given. -/
def Given.valueFor? (setting : Setting) : Given → Option Value
  | .switch truth => some (.bool truth)
  | .value text => (readNumber setting text).toOption.map .int

namespace CheckRequest

/-- The change that an option asks for, if it asks for one. -/
def change? : CheckOption × Given → Option (Setting × Value)
  | (.setting setting, given) => (given.valueFor? setting).map (setting, ·)
  | _ => none

/-- An option adds the change that it asks for, and one for a setting always asks for one. -/
private theorem add_changes {request next : CheckRequest} {asked : CheckOption × Given}
    (done : request.add asked = .ok next) :
    next.changes = request.changes ++ (change? asked).toList ∧
      ∀ setting, asked.1 = .setting setting → ∃ value, asked.2.valueFor? setting = some value := by
  obtain ⟨option, given⟩ := asked
  cases option with
  | setting setting =>
    cases given with
    | value text =>
      obtain ⟨number, read, added⟩ := bind_eq_ok_iff.mp done
      obtain rfl := Except.ok.inj added
      have value : Given.valueFor? setting (.value text) = some (.int number) := by
        rw [Given.valueFor?, read]
        rfl
      refine ⟨by rw [change?, value]; rfl, ?_⟩
      rintro _ ⟨⟩
      exact ⟨_, value⟩
    | switch truth =>
      obtain rfl := Except.ok.inj done
      refine ⟨rfl, ?_⟩
      rintro _ ⟨⟩
      exact ⟨_, rfl⟩
  | config =>
    refine ⟨?_, nofun⟩
    cases given with
    | value text =>
      obtain ⟨path, -, added⟩ := bind_eq_ok_iff.mp done
      obtain rfl := Except.ok.inj added
      exact (List.append_nil _).symm
    | switch truth =>
      obtain rfl := Except.ok.inj done
      exact (List.append_nil _).symm
  | format =>
    refine ⟨?_, nofun⟩
    cases given with
    | value text =>
      simp only [add] at done
      split at done
      · obtain rfl := Except.ok.inj done
        exact (List.append_nil _).symm
      · cases done
    | switch truth =>
      obtain rfl := Except.ok.inj done
      exact (List.append_nil _).symm
  | metrics =>
    obtain rfl := Except.ok.inj done
    exact ⟨(List.append_nil _).symm, nofun⟩
  | help =>
    obtain rfl := Except.ok.inj done
    exact ⟨(List.append_nil _).symm, nofun⟩

/-- All options together add the changes that they ask for one by one. -/
private theorem foldlM_add_changes {options : List (CheckOption × Given)}
    {request result : CheckRequest} (done : options.foldlM add request = .ok result) :
    result.changes = request.changes ++ options.filterMap change? ∧
      ∀ setting given, (.setting setting, given) ∈ options →
        ∃ value, given.valueFor? setting = some value := by
  induction options generalizing request with
  | nil =>
    obtain rfl := Except.ok.inj done
    exact ⟨(List.append_nil _).symm, nofun⟩
  | cons asked options ih =>
    rw [List.foldlM_cons] at done
    obtain ⟨next, added, rest⟩ := bind_eq_ok_iff.mp done
    obtain ⟨changes, asks⟩ := add_changes added
    obtain ⟨later, others⟩ := ih rest
    constructor
    · rw [later, changes, List.append_assoc, List.filterMap_cons]
      cases change? asked <;> rfl
    · intro setting given member
      rcases List.mem_cons.mp member with rfl | member
      · exact asks setting rfl
      · exact others setting given member

variable {arguments : Arguments CheckOption} {request : CheckRequest}

theorem ofArguments_changes (done : ofArguments arguments = .ok request) :
    request.changes = arguments.settled.filterMap change? ∧
      ∀ setting given, arguments.last? (.setting setting) = some given →
        ∃ value, given.valueFor? setting = some value := by
  obtain ⟨settled, added, done⟩ := bind_eq_ok_iff.mp done
  obtain ⟨changes, asks⟩ := foldlM_add_changes added
  split_ifs at done
  obtain ⟨paths, -, done⟩ := bind_eq_ok_iff.mp done
  obtain rfl := Except.ok.inj done
  exact ⟨changes, fun setting given last => asks setting given (Arguments.mem_settled_iff.mpr last)⟩

theorem change?_eq_some_iff {asked : CheckOption × Given} {setting : Setting} {value : Value} :
    change? asked = some (setting, value) ↔
      asked.1 = .setting setting ∧ asked.2.valueFor? setting = some value := by
  obtain ⟨option, given⟩ := asked
  cases option with
  | setting other =>
    simp only [change?, Option.map_eq_some_iff, Prod.mk.injEq, CheckOption.setting.injEq]
    constructor
    · rintro ⟨_, found, rfl, rfl⟩
      exact ⟨rfl, found⟩
    · rintro ⟨rfl, found⟩
      exact ⟨value, found, rfl, rfl⟩
  | _ => simp [change?]

/-- A request changes no setting twice. -/
theorem nodup_changes (done : ofArguments arguments = .ok request) :
    (request.changes.map Prod.fst).Nodup := by
  rw [(ofArguments_changes done).1, List.Nodup, List.pairwise_map, List.pairwise_filterMap]
  apply List.Pairwise.imp _ Arguments.settled_pairwise
  rintro first second different ⟨setting, value⟩ one ⟨other, also⟩ two rfl
  exact different ((change?_eq_some_iff.mp one).1.trans (change?_eq_some_iff.mp two).1.symm)

/-- A request changes a setting to what its option was given last. -/
theorem lastGiven?_changes (done : ofArguments arguments = .ok request) (setting : Setting) :
    Settings.lastGiven? setting request.changes =
      (arguments.last? (.setting setting)).bind (Given.valueFor? setting) := by
  apply Option.ext
  intro value
  rw [Settings.lastGiven?_eq_some_iff (nodup_changes done), (ofArguments_changes done).1,
    List.mem_filterMap, Option.bind_eq_some_iff]
  simp only [change?_eq_some_iff, ← Arguments.mem_settled_iff, Prod.exists]
  constructor
  · rintro ⟨_, given, member, rfl, found⟩
    exact ⟨given, member, found⟩
  · rintro ⟨given, member, found⟩
    exact ⟨_, given, member, rfl, found⟩

end CheckRequest

/-- The arguments and the request with which words on the command line come to the `check` command,
if they come to it. -/
def checkAsked? (words : List String) : Option (Arguments CheckOption × CheckRequest) := do
  let program ← (Arguments.read programSpellings false words).toOption
  guard ((program.given.map (·.1)).find? (· != .debug)).isNone
  guard (program.others.head? = some "check")
  let arguments ← (Arguments.read checkSpellings true program.others.tail).toOption
  guard !(arguments.given.any (·.1 == .help))
  let request ← (CheckRequest.ofArguments arguments).toOption
  return (arguments, request)

section Asked

variable {words : List String} {arguments : Arguments CheckOption} {request : CheckRequest}

/-- A command line that comes to the `check` command is read in two steps. -/
private theorem exists_of_checkAsked? (asks : checkAsked? words = some (arguments, request)) :
    ∃ program rest, Arguments.read programSpellings false words = .ok program ∧
      (program.given.map (·.1)).find? (· != .debug) = none ∧ program.others = "check" :: rest ∧
      Arguments.read checkSpellings true rest = .ok arguments ∧
      (arguments.given.any (·.1 == .help)) = false ∧
      CheckRequest.ofArguments arguments = .ok request := by
  simp only [checkAsked?, bind, pure, Option.bind_eq_some_iff, toOption_eq_some_iff,
    Option.guard_eq_some', Option.some.injEq, Prod.mk.injEq] at asks
  obtain ⟨program, read, _, plain, _, named, _, command, _, noHelp, _, asked, rfl, rfl⟩ := asks
  refine ⟨program, program.others.tail, read, Option.isNone_iff_eq_none.mp plain, ?_, command, ?_,
    asked⟩
  · exact List.eq_cons_of_mem_head? named
  · simpa using noHelp

theorem ofArguments_of_checkAsked? (asks : checkAsked? words = some (arguments, request)) :
    CheckRequest.ofArguments arguments = .ok request := by
  obtain ⟨_, _, -, -, -, -, -, asked⟩ := exists_of_checkAsked? asks
  exact asked

/-- A run that comes to the `check` command does what is asked. -/
theorem run_of_checkAsked? (asks : checkAsked? words = some (arguments, request))
    (surroundings : Surroundings) :
    ∃ debug, surroundings.run words = surroundings.check debug request := by
  obtain ⟨program, rest, read, plain, others, command, noHelp, asked⟩ := exists_of_checkAsked? asks
  refine ⟨!program.given.isEmpty || debugRequested surroundings.debugSetting, ?_⟩
  simp only [Surroundings.run, read, plain, others, if_true, Surroundings.runCheck, command, noHelp,
    asked]
  rfl

end Asked

end LineWidth
