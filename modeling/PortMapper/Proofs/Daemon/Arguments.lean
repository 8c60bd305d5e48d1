import PortMapper.Daemon.Arguments
import Mathlib.Data.List.TakeWhile

/-!
# The arguments that a daemon takes

A flag is a keyword with the value that it takes, and arguments are taken exactly if they spell a list of flags
(`Arguments.ofList_ok`): each keyword stands behind any number of dashes, and the argument after it is its value. What
is asked for is then the last value of each keyword that takes one, and whether the others stand anywhere
(`Arguments.ofFlags`), so that it matters only in which order the flags with one keyword come
(`Arguments.ofFlags_congr`).
-/

namespace PortMapper.Daemon

/-! ## Keywords -/

namespace Keyword

/-- The words for a keyword. -/
def words : Keyword → List Text
  | port => ["port".toList]
  | address => ["address".toList]
  | relaxed => ["relaxed_command_check".toList]
  | debug => ["d".toList, "debug".toList]
  | help => ["h".toList, "help".toList]

/-- An argument is a word for a keyword behind any number of dashes. -/
def Written (keyword : Keyword) (argument : Text) : Prop :=
  ∃ dashes, ∃ word ∈ keyword.words, argument = List.replicate dashes '-' ++ word

variable {keyword : Keyword} {argument word : Text}

/-- No word for a keyword begins with a dash. -/
theorem dropWhile_replicate_append (dashes : Nat) (named : word ∈ keyword.words) :
    (List.replicate dashes '-' ++ word).dropWhile (· == '-') = word := by
  have stays : word.dropWhile (· == '-') = word := by
    revert named
    cases keyword <;> simp only [words, List.mem_cons, List.not_mem_nil, or_false] <;> rintro (rfl | rfl) <;> rfl
  rw [List.dropWhile_append_of_pos, stays]
  intro c member
  rw [List.eq_of_mem_replicate member]
  rfl

theorem ofText?_eq_some : ofText? argument = some keyword ↔ keyword.Written argument := by
  constructor
  · intro found
    have dashed : ∀ c ∈ argument.takeWhile (· == '-'), c = '-' :=
      fun c member => eq_of_beq (List.mem_takeWhile_imp (p := (· == '-')) member)
    refine ⟨(argument.takeWhile (· == '-')).length, argument.dropWhile (· == '-'), ?_, ?_⟩
    · rw [← String.toList_ofList (l := argument.dropWhile (· == '-'))]
      unfold ofText? at found
      generalize String.ofList (argument.dropWhile (· == '-')) = bare at found ⊢
      split at found <;> cases found <;> decide
    · rw [← List.eq_replicate_of_mem dashed, List.takeWhile_append_dropWhile]
  · rintro ⟨dashes, word, named, rfl⟩
    rw [ofText?, dropWhile_replicate_append dashes named]
    revert named
    cases keyword <;> simp only [words, List.mem_cons, List.not_mem_nil, or_false] <;> rintro (rfl | rfl) <;> rfl

end Keyword

/-! ## Flags -/

/-- A keyword with the value that it takes, if it takes one. -/
inductive Flag
  | port (value : UInt16)
  | address (value : List IpAddress)
  | relaxed
  | debug
  | help
  deriving DecidableEq, Repr

namespace Flag

def keyword : Flag → Keyword
  | port _ => .port
  | address _ => .address
  | relaxed => .relaxed
  | debug => .debug
  | help => .help

/-- The arguments behind the keyword of a flag that spell its value. -/
def Valued (arguments : List Text) : Flag → Prop
  | port value => ∃ argument, arguments = [argument] ∧ Text.Decimal.readUInt16 argument = .ok value
  | address value => ∃ argument, arguments = [argument] ∧ IpAddress.listOfText? argument = some value
  | relaxed | debug | help => arguments = []

def port? : Flag → Option UInt16
  | port value => some value
  | _ => none

def allowed? : Flag → Option (List IpAddress)
  | address value => some value
  | _ => none

end Flag

/-- Arguments spell a list of flags, one after the other. -/
inductive Spelled : List Flag → List Text → Prop
  | nil : Spelled [] []
  | cons (flag : Flag) (value : List Text) {flags : List Flag} {keyword : Text} {rest : List Text}
      (named : flag.keyword.Written keyword) (valued : flag.Valued value) (spelled : Spelled flags rest) :
      Spelled (flag :: flags) (keyword :: (value ++ rest))

/-- Two lists have the same flags with each keyword, in the same order; flags with different keywords may stand
otherwise. -/
def SameByKeyword (flags other : List Flag) : Prop :=
  ∀ keyword, flags.filter (·.keyword = keyword) = other.filter (·.keyword = keyword)

namespace Arguments

variable {asked result : Arguments} {arguments : List Text} {flags : List Flag}

/-- What arguments ask for with one more flag. -/
def add (asked : Arguments) : Flag → Arguments
  | .port value => { asked with port := some value }
  | .address value => { asked with allowed := some value }
  | .relaxed => { asked with relaxed := true }
  | .debug => { asked with debug := true }
  | .help => { asked with help := true }

theorem addAll_of_spelled (spelled : Spelled flags arguments) :
    addAll asked arguments = .ok (flags.foldl add asked) := by
  induction spelled generalizing asked with
  | nil => rfl
  | cons flag value named valued _ ih =>
    have found := Keyword.ofText?_eq_some.mpr named
    rw [List.foldl_cons, ← ih]
    cases flag with
    | port port =>
      obtain ⟨argument, rfl, read⟩ := valued
      simp only [addAll, found, Flag.keyword, List.cons_append, List.nil_append, read, add]
    | address allowed =>
      obtain ⟨argument, rfl, read⟩ := valued
      simp only [addAll, found, Flag.keyword, List.cons_append, List.nil_append, read, add]
    | relaxed | debug | help =>
      cases valued
      rw [List.nil_append, addAll.eq_def]
      simp only [found, Flag.keyword, add]

/-- Arguments are taken exactly if they spell flags, and each flag adds to what was asked for before. -/
theorem addAll_ok :
    addAll asked arguments = .ok result ↔ ∃ flags, Spelled flags arguments ∧ flags.foldl add asked = result := by
  constructor
  · intro taken
    fun_induction addAll asked arguments generalizing result with
    | case1 asked =>
      cases taken
      exact ⟨[], .nil, rfl⟩
    | case2 | case6 | case7 | case9 | case10 => cases taken
    | case3 asked argument rest found ih =>
      obtain ⟨flags, spelled, same⟩ := ih taken
      exact ⟨_, .cons .relaxed [] (Keyword.ofText?_eq_some.mp found) rfl spelled, same⟩
    | case4 asked argument rest found ih =>
      obtain ⟨flags, spelled, same⟩ := ih taken
      exact ⟨_, .cons .debug [] (Keyword.ofText?_eq_some.mp found) rfl spelled, same⟩
    | case5 asked argument rest found ih =>
      obtain ⟨flags, spelled, same⟩ := ih taken
      exact ⟨_, .cons .help [] (Keyword.ofText?_eq_some.mp found) rfl spelled, same⟩
    | case8 asked argument found value rest port read ih =>
      obtain ⟨flags, spelled, same⟩ := ih taken
      exact ⟨_, .cons (.port port) [value] (Keyword.ofText?_eq_some.mp found) ⟨value, rfl, read⟩ spelled, same⟩
    | case11 asked argument found value rest allowed read ih =>
      obtain ⟨flags, spelled, same⟩ := ih taken
      exact ⟨_, .cons (.address allowed) [value] (Keyword.ofText?_eq_some.mp found) ⟨value, rfl, read⟩ spelled, same⟩
  · rintro ⟨flags, spelled, rfl⟩
    exact addAll_of_spelled spelled

/-- What flags ask for: the last port, the last addresses, and whatever else is asked for anywhere. -/
def ofFlags (flags : List Flag) : Arguments where
  port := (flags.filterMap Flag.port?).getLast?
  allowed := (flags.filterMap Flag.allowed?).getLast?
  relaxed := decide (.relaxed ∈ flags)
  debug := decide (.debug ∈ flags)
  help := decide (.help ∈ flags)

theorem foldl_add : flags.foldl add asked =
    ⟨(ofFlags flags).port.or asked.port, (ofFlags flags).allowed.or asked.allowed,
      (ofFlags flags).relaxed || asked.relaxed, (ofFlags flags).debug || asked.debug,
      (ofFlags flags).help || asked.help⟩ := by
  induction flags generalizing asked with
  | nil => rfl
  | cons flag flags ih =>
    rw [List.foldl_cons, ih]
    cases flag <;> simp [ofFlags, add, Flag.port?, Flag.allowed?, List.getLast?_cons]

/-- Arguments are taken exactly if they spell flags, and ask for what these ask for. -/
theorem ofList_ok : ofList arguments = .ok result ↔ ∃ flags, Spelled flags arguments ∧ ofFlags flags = result := by
  refine addAll_ok.trans (exists_congr fun flags => and_congr_right fun _ => ?_)
  rw [foldl_add]
  simp

theorem ofList_of_spelled (spelled : Spelled flags arguments) : ofList arguments = .ok (ofFlags flags) :=
  ofList_ok.mpr ⟨flags, spelled, rfl⟩

/-! ## Order -/

variable {other : List Flag}

/-- What is taken from flags with one keyword does not depend on the others. -/
theorem filterMap_filter_keyword {α : Type} {take? : Flag → Option α} {keyword : Keyword}
    (only : ∀ flag, flag.keyword ≠ keyword → take? flag = none) :
    (flags.filter (·.keyword = keyword)).filterMap take? = flags.filterMap take? := by
  rw [List.filterMap_filter]
  congr 1
  funext flag
  by_cases same : flag.keyword = keyword
  · simp [same]
  · simp [same, only flag same]

theorem mem_filter_keyword {flag : Flag} : flag ∈ flags.filter (·.keyword = flag.keyword) ↔ flag ∈ flags := by
  simp

/-- Nothing that flags ask for depends on how flags with different keywords are mixed. -/
theorem ofFlags_congr (same : SameByKeyword flags other) : ofFlags flags = ofFlags other := by
  have ports (flag : Flag) (differs : flag.keyword ≠ .port) : flag.port? = none := by
    cases flag with
    | port value => exact absurd rfl differs
    | address | relaxed | debug | help => rfl
  have addresses (flag : Flag) (differs : flag.keyword ≠ .address) : flag.allowed? = none := by
    cases flag with
    | address value => exact absurd rfl differs
    | port | relaxed | debug | help => rfl
  have mem (flag : Flag) : flag ∈ flags ↔ flag ∈ other := by
    rw [← mem_filter_keyword, same, mem_filter_keyword]
  unfold ofFlags
  rw [← filterMap_filter_keyword ports, ← filterMap_filter_keyword addresses, same, same,
    filterMap_filter_keyword ports, filterMap_filter_keyword addresses]
  simp only [mem]

end Arguments

end PortMapper.Daemon
