import ResSched.Library.RateLimit
import ResSched.Library.Transition
import ResSched.Model.Service.RequestLimit

/-! # The rate limiter counts what it accepts

The map of the limiter and its total count the requests accepted in the current window, so a
request is refused exactly when the window is exhausted.
-/

namespace ResSched.RequestLimit

open RateLimit

/-- The constants of the limiter as limits of a window. -/
def limits : Limits where
  single := SINGLE_UID_REQUEST_LIMIT_COUNT.toNat
  all := ALL_UID_REQUEST_LIMIT_COUNT.toNat
  period := LIMIT_REQUEST_TIME

theorem limits_single : (limits.single : Int) = SINGLE_UID_REQUEST_LIMIT_COUNT :=
  rfl

theorem limits_all : (limits.all : Int) = ALL_UID_REQUEST_LIMIT_COUNT :=
  rfl

/-- A call of `IsLimitRequest`: the instant the clock shows and the caller. -/
structure Call where
  nowTime : Int
  uid : Int

/-- The limiter next to the window of the requests it has answered. -/
structure Observed where
  service : Service
  window : Window Int

def Observed.start : Observed where
  service := Service.start
  window := ⟨Service.start.nextCheckTime_, []⟩

/-- One call, whose answer is entered in the window. -/
def Observed.call (observed : Observed) (call : Call) : Observed where
  service := (IsLimitRequest observed.service call.nowTime call.uid).1
  window := observed.window.answered limits call.nowTime call.uid
    (IsLimitRequest observed.service call.nowTime call.uid).2

/-- The uids accepted since the window began in which the call is answered. -/
def Observed.acceptedInWindow (observed : Observed) (call : Call) : List Int :=
  (observed.window.rolled limits call.nowTime).accepted

/-! ## The counters and the window -/

/-- The counters of the limiter describe the window. -/
structure Counts (service : Service) (window : Window Int) : Prop where
  ends : window.ends = service.nextCheckTime_
  tallies : Tallies service.appRequestCountMap_ window.accepted
  length : service.allRequestCount_ = window.accepted.length
  total : service.allRequestCount_ = total service.appRequestCountMap_
  within : window.Within limits

theorem counts_start : Counts Service.start Observed.start.window where
  ends := rfl
  tallies := tallies_nil
  length := rfl
  total := rfl
  within := Window.within_empty limits 0

theorem Counts.checkAndUpdateLimitData {service : Service} {window : Window Int}
    (h : Counts service window) (nowTime : Int) :
    Counts (CheckAndUpdateLimitData service nowTime) (window.rolled limits nowTime) := by
  rw [CheckAndUpdateLimitData, Window.rolled, h.ends]
  split_ifs with hnext hends hends
  · exact ⟨rfl, tallies_nil, rfl, rfl, Window.within_empty limits _⟩
  · omega
  · omega
  · exact h

theorem Counts.exhausted_iff {service : Service} {window : Window Int}
    (h : Counts service window) (uid : Int) :
    window.Exhausted limits uid ↔
      service.allRequestCount_ ≥ ALL_UID_REQUEST_LIMIT_COUNT ∨
        (service.appRequestCountMap_.lookup uid).getD 0 ≥ SINGLE_UID_REQUEST_LIMIT_COUNT := by
  rw [Window.Exhausted, h.length, h.tallies.getD uid, ← limits_single, ← limits_all,
    or_comm, ge_iff_le, ge_iff_le, Int.ofNat_le, Int.ofNat_le]

/-- An accepted request is counted in the map and in the total. -/
theorem Counts.accept {service : Service} {window : Window Int} (h : Counts service window)
    (uid : Int) (hopen : ¬ window.Exhausted limits uid) (count : Int)
    (hcount : count = (service.appRequestCountMap_.lookup uid).getD 0 + 1) :
    Counts
      { service with
        appRequestCountMap_ := service.appRequestCountMap_.insert uid count
        allRequestCount_ := service.allRequestCount_ + 1 }
      (window.accept uid) where
  ends := h.ends
  tallies := h.tallies.insert uid count hcount
  length := by simp [h.length, Window.accept]
  total := by
    show service.allRequestCount_ + 1 = _
    cases hlookup : service.appRequestCountMap_.lookup uid with
    | none =>
        rw [total_insert_of_none _ _ _ hlookup, ← h.total, hcount, hlookup]
        simp only [Option.getD_none]
        omega
    | some old =>
        rw [total_insert_of_some _ _ old _ hlookup, ← h.total, hcount, hlookup]
        simp only [Option.getD_some]
        omega
  within := h.within.accept uid hopen

/-! ## One call -/

theorem isLimitRequest_of_exhausted {service : Service} {window : Window Int} (nowTime uid : Int)
    (h : Counts (CheckAndUpdateLimitData service nowTime) window)
    (hexhausted : window.Exhausted limits uid) :
    IsLimitRequest service nowTime uid = (CheckAndUpdateLimitData service nowTime, true) := by
  rw [h.exhausted_iff uid] at hexhausted
  simp only [IsLimitRequest]
  split_ifs with hall
  · rfl
  · have hsingle := hexhausted.resolve_left hall
    cases hlookup : (CheckAndUpdateLimitData service nowTime).appRequestCountMap_.lookup uid with
    | none =>
        rw [hlookup] at hsingle
        simp [SINGLE_UID_REQUEST_LIMIT_COUNT] at hsingle
    | some count =>
        rw [hlookup] at hsingle
        exact if_pos hsingle

theorem isLimitRequest_of_not_exhausted {service : Service} {window : Window Int}
    (nowTime uid : Int) (h : Counts (CheckAndUpdateLimitData service nowTime) window)
    (hopen : ¬ window.Exhausted limits uid) :
    (IsLimitRequest service nowTime uid).2 = false ∧
      Counts (IsLimitRequest service nowTime uid).1 (window.accept uid) := by
  have haccept := h.accept uid hopen
  rw [h.exhausted_iff uid, not_or] at hopen
  simp only [IsLimitRequest]
  rw [if_neg hopen.1]
  cases hlookup : (CheckAndUpdateLimitData service nowTime).appRequestCountMap_.lookup uid with
  | none => exact ⟨rfl, haccept 1 (by simp [hlookup])⟩
  | some count =>
      rw [hlookup, Option.getD_some] at hopen
      dsimp only
      rw [if_neg hopen.2]
      exact ⟨rfl, haccept (count + 1) (by simp [hlookup])⟩

/-- A call is refused exactly when the window it falls into is exhausted. -/
theorem isLimitRequest_refused_iff {service : Service} {window : Window Int}
    (h : Counts service window) (nowTime uid : Int) :
    (IsLimitRequest service nowTime uid).2 = true ↔
      (window.rolled limits nowTime).Exhausted limits uid := by
  have hchecked := h.checkAndUpdateLimitData nowTime
  by_cases hexhausted : (window.rolled limits nowTime).Exhausted limits uid
  · rw [isLimitRequest_of_exhausted nowTime uid hchecked hexhausted]
    simpa using hexhausted
  · rw [(isLimitRequest_of_not_exhausted nowTime uid hchecked hexhausted).1]
    simpa using hexhausted

theorem Counts.isLimitRequest {service : Service} {window : Window Int}
    (h : Counts service window) (nowTime uid : Int) :
    Counts (IsLimitRequest service nowTime uid).1
      (window.answered limits nowTime uid (IsLimitRequest service nowTime uid).2) := by
  have hchecked := h.checkAndUpdateLimitData nowTime
  rw [Window.answered]
  by_cases hexhausted : (window.rolled limits nowTime).Exhausted limits uid
  · rw [isLimitRequest_of_exhausted nowTime uid hchecked hexhausted]
    exact hchecked
  · obtain ⟨haccepted, hcounts⟩ :=
      isLimitRequest_of_not_exhausted nowTime uid hchecked hexhausted
    rw [haccepted]
    exact hcounts

/-- A new window is not exhausted, so a refused call is in the old one and changes nothing. -/
theorem isLimitRequest_refused {service : Service} {window : Window Int}
    (h : Counts service window) (nowTime uid : Int)
    (hrefused : (IsLimitRequest service nowTime uid).2 = true) :
    (IsLimitRequest service nowTime uid).1 = service := by
  have hchecked := h.checkAndUpdateLimitData nowTime
  have hexhausted := (isLimitRequest_refused_iff h nowTime uid).mp hrefused
  rw [isLimitRequest_of_exhausted nowTime uid hchecked hexhausted, CheckAndUpdateLimitData]
  refine if_neg ?_
  intro hends
  have hempty : window.rolled limits nowTime = ⟨nowTime + limits.period, []⟩ := by
    rw [Window.rolled, if_pos]
    rw [h.ends]
    omega
  rw [hempty, Window.Exhausted] at hexhausted
  simp [limits, SINGLE_UID_REQUEST_LIMIT_COUNT, ALL_UID_REQUEST_LIMIT_COUNT] at hexhausted

/-! ## Sequences of calls -/

theorem counts_run (calls : List Call) :
    Counts (Transition.run Observed.call Observed.start calls).service
      (Transition.run Observed.call Observed.start calls).window := by
  have halways := Transition.always_of_step Observed.call
    (P := fun observed => Counts observed.service observed.window)
    (fun observed call h => h.isLimitRequest call.nowTime call.uid) calls Observed.start
    counts_start
  exact halways.last Observed.call

theorem count_le_of_counts {service : Service} {window : Window Int} (h : Counts service window)
    (uid count : Int) (hlookup : service.appRequestCountMap_.lookup uid = some count) :
    count ≤ SINGLE_UID_REQUEST_LIMIT_COUNT := by
  have hcount := h.tallies.getD uid
  rw [hlookup, Option.getD_some] at hcount
  rw [hcount, ← limits_single]
  exact Int.ofNat_le.mpr (h.within.single uid)

/-- After any calls the total is the sum of the counts, the counts are within the limits, a
refused call changes nothing, and a call is refused exactly when its uid or all uids together
have been accepted up to the limit since the window of the call began. -/
theorem isLimitRequest_limits (calls : List Call) (call : Call) :
    let observed := Transition.run Observed.call Observed.start calls
    let answer := IsLimitRequest observed.service call.nowTime call.uid
    let accepted := observed.acceptedInWindow call
    observed.service.allRequestCount_ = total observed.service.appRequestCountMap_ ∧
      (∀ uid count, observed.service.appRequestCountMap_.lookup uid = some count →
        count ≤ SINGLE_UID_REQUEST_LIMIT_COUNT) ∧
      observed.service.allRequestCount_ ≤ ALL_UID_REQUEST_LIMIT_COUNT ∧
      (answer.2 = true → answer.1 = observed.service) ∧
      (answer.2 = true ↔
        SINGLE_UID_REQUEST_LIMIT_COUNT ≤ accepted.count call.uid ∨
          ALL_UID_REQUEST_LIMIT_COUNT ≤ accepted.length) := by
  intro observed answer accepted
  have h : Counts observed.service observed.window := counts_run calls
  refine ⟨h.total, count_le_of_counts h, ?_, ?_, ?_⟩
  · rw [h.length, ← limits_all]
    exact Int.ofNat_le.mpr h.within.all
  · exact isLimitRequest_refused h call.nowTime call.uid
  · rw [← limits_single, ← limits_all, Int.ofNat_le, Int.ofNat_le]
    exact isLimitRequest_refused_iff h call.nowTime call.uid

/-! ## Requests of clients -/

/-- The refusals that have been written to an event or are still to be written. -/
def Service.refusals (service : Service) : Int :=
  service.requestLimitEvents.sum + service.bigDataReportCount_

theorem refusals_reportBigData (service : Service) (nowTime : Int) :
    (ReportBigData service nowTime).refusals = service.refusals := by
  rw [ReportBigData]
  split_ifs with hreport hnow
  · rfl
  · rfl
  · simp [Service.refusals]

theorem refusals_inreaseBigDataCount (service : Service) (nowTime : Int) :
    (InreaseBigDataCount service nowTime).refusals = service.refusals + 1 := by
  simp only [InreaseBigDataCount]
  split_ifs with hreport
  · simp only [Service.refusals]
    omega
  · simp only [Service.refusals]
    omega

theorem refusals_printLimitLog (service : Service) :
    (PrintLimitLog service).refusals = service.refusals := by
  rw [PrintLimitLog]
  split_ifs with hprint
  · rfl
  · rfl

theorem refusals_checkAndUpdateLimitData (service : Service) (nowTime : Int) :
    (CheckAndUpdateLimitData service nowTime).refusals = service.refusals := by
  rw [CheckAndUpdateLimitData]
  split_ifs with hends
  · rfl
  · rfl

theorem refusals_isLimitRequest (service : Service) (nowTime uid : Int) :
    (IsLimitRequest service nowTime uid).1.refusals = service.refusals := by
  rw [← refusals_checkAndUpdateLimitData service nowTime]
  simp only [IsLimitRequest]
  split_ifs with hall
  · rfl
  · cases (CheckAndUpdateLimitData service nowTime).appRequestCountMap_.lookup uid with
    | none => rfl
    | some count =>
        dsimp only
        split_ifs with hsingle
        · rfl
        · rfl

/-- Every refused request is counted once and for all, no accepted one is. -/
theorem refusals_remoteRequestCheck (service : Service) (clock : Clock) (uid : Int) :
    (RemoteRequestCheck service clock uid).1.refusals =
      service.refusals +
        if (RemoteRequestCheck service clock uid).2 = .error .RES_SCHED_REQUEST_FAIL then 1
        else 0 := by
  have hlimit := refusals_isLimitRequest (ReportBigData service clock.reportBigData)
    clock.isLimitRequest uid
  rw [refusals_reportBigData] at hlimit
  cases hanswer : IsLimitRequest (ReportBigData service clock.reportBigData)
      clock.isLimitRequest uid with
  | mk checked refused =>
      rw [hanswer] at hlimit
      cases refused with
      | true =>
          have hcheck : RemoteRequestCheck service clock uid =
              (PrintLimitLog (InreaseBigDataCount checked clock.inreaseBigDataCount),
                .error .RES_SCHED_REQUEST_FAIL) := by
            simp only [RemoteRequestCheck, hanswer]
          rw [hcheck, refusals_printLimitLog, refusals_inreaseBigDataCount, hlimit, if_pos rfl]
      | false =>
          have hcheck : RemoteRequestCheck service clock uid = (checked, .ok ()) := by
            simp only [RemoteRequestCheck, hanswer]
          rw [hcheck, hlimit, if_neg (by simp), add_zero]

end ResSched.RequestLimit
