import ResSched.Model.Executor.KillProcess

/-! # Kill requests name one process

What a request names, and when the process that gets the signal is the one named.
-/

namespace ResSched.Kill

open CLibrary

/-! ## Reading a pid -/

theorem StrToInt32_eq_some_iff_strtol (value : String) (pid : Int) :
    StrToInt32 value = some pid ↔
      strtol 64 (cString value).toList = ⟨pid, true, false, []⟩ ∧ INT_MIN ≤ pid ∧
        pid ≤ INT_MAX := by
  rw [StrToInt32]
  generalize strtol 64 (cString value).toList = res
  obtain ⟨res, converted, erange, rest⟩ := res
  rw [Strtol.mk.injEq]
  split_ifs with hrefused
  · refine iff_of_false not_false ?_
    rintro ⟨⟨rfl, rfl, rfl, rfl⟩, hlow, hhigh⟩
    rcases hrefused with h | h | h | h | h
    · cases h
    · cases h
    · exact h rfl
    · exact absurd h (Int.not_lt.mpr hlow)
    · exact absurd h (Int.not_lt.mpr hhigh)
  · simp only [not_or, Bool.not_eq_true, ne_eq, not_not, Bool.not_eq_false', Int.not_lt,
      gt_iff_lt] at hrefused
    obtain ⟨rfl, rfl, rfl, hlow, hhigh⟩ := hrefused
    rw [Option.some.injEq]
    constructor
    · rintro rfl
      exact ⟨⟨rfl, rfl, rfl, rfl⟩, hlow, hhigh⟩
    · rintro ⟨⟨rfl, -⟩, -⟩
      rfl

/-- A pid is read exactly from a decimal number in the range of a pid. -/
theorem StrToInt32_eq_some_iff (value : String) (pid : Int) :
    StrToInt32 value = some pid ↔
      IsDecimal (cString value).toList pid ∧ INT_MIN ≤ pid ∧ pid ≤ INT_MAX := by
  have hlong : (Nat.pow 2 (64 - 1) : Nat) = 9223372036854775808 := by decide
  rw [StrToInt32_eq_some_iff_strtol, strtol_eq_iff, hlong]
  constructor
  · rintro ⟨⟨hdecimal, -⟩, hrange⟩
    exact ⟨hdecimal, hrange⟩
  · rintro ⟨hdecimal, hlow, hhigh⟩
    rw [INT_MIN] at hlow
    rw [INT_MAX] at hhigh
    refine ⟨⟨hdecimal, ?_, ?_⟩, hlow, hhigh⟩
    · omega
    · omega

/-! ## From the service to the signal -/

/-- A positive pid comes through the casts as it is. -/
theorem toInt_ofInt_pid {pid : Int} (hpositive : 0 < pid) (hmax : pid ≤ INT_MAX) :
    (BitVec.ofInt 32 pid).toInt = pid ∧ BitVec.ofInt 32 pid ≠ 0#32 := by
  rw [INT_MAX] at hmax
  have hsame : (BitVec.ofInt 32 pid).toInt = pid := by
    rw [BitVec.toInt_ofInt]
    exact Int.bmod_eq_of_le (by omega) (by omega)
  refine ⟨hsame, fun hzero => ?_⟩
  rw [hzero] at hsame
  exact absurd hsame hpositive.ne

/-- The executor is there and takes calls of this process. -/
def External.reachable (env : External) : Bool :=
  env.hasProxy && env.callingUid = RSS_UID

theorem client_signalled (env : External) {pid : Int} (hpositive : 0 < pid)
    (hmax : pid ≤ INT_MAX) :
    (ResSchedExeClient.KillProcess env pid).signalled = if env.reachable then [pid] else [] := by
  obtain ⟨hsame, hnonzero⟩ := toInt_ofInt_pid hpositive hmax
  rw [ResSchedExeClient.KillProcess, ResSchedExeService.KillProcess, External.reachable]
  by_cases hproxy : env.hasProxy
  · by_cases huid : env.callingUid = RSS_UID
    · have hle : ¬ BitVec.ofInt 32 pid ≤ 0 := fun hle => hnonzero (BitVec.le_zero_iff.mp hle)
      simp only [hproxy, huid, hle, hsame, ResSchedExeMgr.KillProcess, Bool.not_true,
        Bool.false_eq_true, if_false, ne_eq, not_true_eq_false, decide_true, Bool.and_self,
        if_true]
    · simp [hproxy, huid]
  · simp [hproxy]

/-- What a payload leads to. -/
theorem payload_signalled (env : External) (payload : Json String) :
    (KillProcessByPidWithClient env payload).1.signalled =
      match ((payload.find? "pid").bind Json.string?).bind StrToInt32 with
      | some pid => if 0 < pid ∧ env.reachable then [pid] else []
      | none => [] := by
  rw [KillProcessByPidWithClient]
  cases (payload.find? "pid").bind Json.string? with
  | none => rfl
  | some text =>
      rw [Option.bind_some]
      cases hread : StrToInt32 text with
      | none => simp [hread]
      | some pid =>
          have hmax := ((StrToInt32_eq_some_iff text pid).mp hread).2.2
          by_cases hpositive : pid ≤ 0
          · simp [hread, hpositive, Int.not_lt.mpr hpositive]
          · have hlt := Int.not_le.mp hpositive
            simp only [hread, if_neg hpositive, client_signalled env hlt hmax, hlt, true_and]

/-! ## The process a request names -/

/-- The request comes to an executor that takes it and names a process: by a positive pid, or by a
payload whose "pid" is a string that is a positive decimal number. -/
def Request.Names (env : External) (request : Request) (pid : Int) : Prop :=
  0 < pid ∧ pid ≤ INT_MAX ∧
    match request with
    | .KillProcess number => env.callingUid = RSS_UID ∧ pid = number.toNat
    | .KillProcessByPidWithClient payload => env.reachable = true ∧
        ∃ text, (payload.find? "pid").bind Json.string? = some text ∧ IsDecimal text.toList pid

/-- The process named gets the signal, and nothing is signalled when none is named. -/
def Request.SignalsNamed (env : External) (request : Request) : Prop :=
  (∀ pid, request.Names env pid → request.signalled env = [pid]) ∧
    ((∀ pid, ¬ request.Names env pid) → request.signalled env = [])

/-- A pid at the executor's interface is one of a process, or no caller of the executor sends it.
In a payload no null character stands behind a number. -/
def Request.Plain (env : External) : Request → Prop
  | .KillProcess number => env.callingUid = RSS_UID → number.toNat < 2147483648
  | .KillProcessByPidWithClient payload => env.reachable = true →
      ∀ text, (payload.find? "pid").bind Json.string? = some text →
        Char.ofNat 0 ∈ text.toList →
          ∀ pid, 0 < pid → pid ≤ INT_MAX → ¬ IsDecimal (cString text).toList pid

/-! ## When the process named gets the signal -/

theorem executor_signalled (env : External) (number : BitVec 32) :
    (Request.KillProcess number).signalled env =
      if env.callingUid = RSS_UID ∧ number ≠ 0#32 then [number.toInt] else [] := by
  rw [Request.signalled, ResSchedExeService.KillProcess]
  by_cases huid : env.callingUid = RSS_UID
  · by_cases hzero : number = 0#32
    · simp [huid, hzero]
    · have hpositive : ¬ number ≤ 0 := fun hle => hzero (BitVec.le_zero_iff.mp hle)
      simp only [huid, hpositive, hzero, ResSchedExeMgr.KillProcess, ne_eq, not_true_eq_false,
        not_false_eq_true, and_self, if_true, if_false, Option.map_some, Option.getD_some]
  · simp [huid]

theorem executor_signalsNamed_iff (env : External) (number : BitVec 32) :
    (Request.KillProcess number).SignalsNamed env ↔ (Request.KillProcess number).Plain env := by
  rw [Request.SignalsNamed, executor_signalled, Request.Plain]
  constructor
  · rintro ⟨-, hrejected⟩ huid
    by_contra hlarge
    have hnonzero : number ≠ 0#32 := by
      rintro rfl
      exact hlarge (by decide)
    have hsilent := hrejected fun pid hnames => hlarge ?_
    · rw [if_pos ⟨huid, hnonzero⟩] at hsilent
      cases hsilent
    · obtain ⟨-, hmax, -, rfl⟩ := hnames
      rw [INT_MAX] at hmax
      omega
  · intro hplain
    constructor
    · rintro pid ⟨hpositive, hmax, huid, rfl⟩
      have hnonzero : number ≠ 0#32 := by
        rintro rfl
        exact absurd hpositive (by decide)
      rw [if_pos ⟨huid, hnonzero⟩, BitVec.toInt_eq_toNat_of_lt]
      have hsmall := hplain huid
      omega
    · intro hnone
      refine if_neg ?_
      rintro ⟨huid, hnonzero⟩
      have hsmall := hplain huid
      refine hnone number.toNat ⟨?_, ?_, huid, rfl⟩
      · exact Int.natCast_pos.mpr (Nat.pos_of_ne_zero fun hzero => hnonzero (BitVec.eq_of_toNat_eq hzero))
      · rw [INT_MAX]
        omega

theorem cString_eq_self {text : String} (h : Char.ofNat 0 ∉ text.toList) : cString text = text := by
  rw [cString, List.takeWhile_eq_self_iff.mpr, String.ofList_toList]
  intro c hc
  simpa using fun hzero : c = Char.ofNat 0 => h (hzero ▸ hc)

/-- Neither blanks, signs nor digits are null characters. -/
theorem notMem_of_isDecimal {text : List Char} {number : Int} (h : IsDecimal text number) :
    Char.ofNat 0 ∉ text := by
  obtain ⟨blanks, digits, hblanks, -, hdigits, ⟨rfl, -⟩ | ⟨rfl, -⟩ | ⟨rfl, -⟩⟩ := h
  all_goals
    intro hmem
    simp only [List.mem_append, List.mem_cons] at hmem
  · rcases hmem with hmem | hmem
    · exact absurd (hblanks _ hmem) (by decide)
    · exact absurd (hdigits _ hmem) (by decide)
  · rcases hmem with hmem | hmem | hmem
    · exact absurd (hblanks _ hmem) (by decide)
    · exact absurd hmem (by decide)
    · exact absurd (hdigits _ hmem) (by decide)
  · rcases hmem with hmem | hmem | hmem
    · exact absurd (hblanks _ hmem) (by decide)
    · exact absurd hmem (by decide)
    · exact absurd (hdigits _ hmem) (by decide)

theorem payload_signalsNamed_iff (env : External) (payload : Json String) :
    (Request.KillProcessByPidWithClient payload).SignalsNamed env ↔
      (Request.KillProcessByPidWithClient payload).Plain env := by
  rw [Request.SignalsNamed, Request.signalled, payload_signalled, Request.Plain]
  simp only [Request.Names]
  cases (payload.find? "pid").bind Json.string? with
  | none => simp
  | some text =>
      simp only [Option.bind_some, Option.some.injEq, exists_eq_left', forall_eq']
      constructor
      · rintro ⟨-, hrejected⟩ hreachable hnull pid hpositive hmax hdecimal
        have hread : StrToInt32 text = some pid := by
          refine (StrToInt32_eq_some_iff text pid).mpr ⟨hdecimal, ?_, hmax⟩
          exact (by decide : INT_MIN ≤ 0).trans hpositive.le
        have hsilent := hrejected fun other hnames =>
          notMem_of_isDecimal hnames.2.2.2 hnull
        simp only [hread, hpositive, hreachable, and_self, if_true] at hsilent
        cases hsilent
      · intro hplain
        have hread : ∀ pid, 0 < pid → env.reachable = true →
            (StrToInt32 text = some pid ↔ IsDecimal text.toList pid ∧ pid ≤ INT_MAX) := by
          intro pid hpositive hreachable
          have hmin : INT_MIN ≤ pid := (by decide : INT_MIN ≤ 0).trans hpositive.le
          rw [StrToInt32_eq_some_iff]
          by_cases hnull : Char.ofNat 0 ∈ text.toList
          · refine iff_of_false ?_ fun h => notMem_of_isDecimal h.1 hnull
            rintro ⟨hdecimal, -, hmax⟩
            exact hplain hreachable hnull pid hpositive hmax hdecimal
          · rw [cString_eq_self hnull]
            exact ⟨fun h => ⟨h.1, h.2.2⟩, fun h => ⟨h.1, hmin, h.2⟩⟩
        constructor
        · rintro pid ⟨hpositive, hmax, hreachable, hdecimal⟩
          have hsome := (hread pid hpositive hreachable).mpr ⟨hdecimal, hmax⟩
          simp only [hsome, hpositive, hreachable, and_self, if_true]
        · intro hnone
          cases hvalue : StrToInt32 text with
          | none => rfl
          | some pid =>
              refine if_neg ?_
              rintro ⟨hpositive, hreachable⟩
              obtain ⟨hdecimal, hmax⟩ := (hread pid hpositive hreachable).mp hvalue
              exact hnone pid ⟨hpositive, hmax, hreachable, hdecimal⟩

/-- Whatever a request holds and wherever it comes from, the process it names gets the signal and
no other does, if and only if a pid sent to the executor is one of a process and no null character
stands behind the number of a payload. -/
theorem kill_signalsNamed_iff (env : External) (request : Request) :
    request.SignalsNamed env ↔ request.Plain env := by
  cases request with
  | KillProcess number => exact executor_signalsNamed_iff env number
  | KillProcessByPidWithClient payload => exact payload_signalsNamed_iff env payload

/-- An executor that takes the calls of this process. -/
def present : External where
  hasProxy := true
  callingUid := RSS_UID
  kill := fun _ => 0
  RecordProcessExitReason := fun _ _ => 0

/-- The pid 4294967295 names no process and is passed on as -1, which is every process. -/
theorem allOnes_signals_everything :
    (Request.KillProcess 4294967295).signalled present = [-1] ∧
      ¬ (Request.KillProcess 4294967295).SignalsNamed present := by
  have hsignalled : (Request.KillProcess 4294967295).signalled present = [-1] := by decide
  refine ⟨hsignalled, ?_⟩
  rintro ⟨-, hrejected⟩
  have hsilent := hrejected fun pid hnames => ?_
  · rw [hsignalled] at hsilent
    cases hsilent
  · obtain ⟨-, hmax, -, rfl⟩ := hnames
    exact absurd hmax (by decide)

end ResSched.Kill
