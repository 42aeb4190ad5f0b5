import ResSched.Library.Pairing
import ResSched.Library.Transition
import ResSched.Model.SceneRecognize.ContinuousInstall

/-! # Reports of continuous installs

When exactly the reports alternate and no install in progress is reported as over.
-/

namespace ResSched.SceneRecognize.ContinuousInstall

open Transition

/-! ## The specification -/

/-- A run of the recognizer with the number of installs that have started and not ended. -/
structure InstallRun where
  recognizer : ContinuousAppInstallRecognizer
  installs : Nat

def InstallRun.start : InstallRun :=
  ⟨.start, 0⟩

def InstallRun.step (current : InstallRun) (event : InstallEvent) : InstallRun where
  recognizer := current.recognizer.step event
  installs :=
    match event with
    | .OnDispatchResource resType value =>
        if current.recognizer.stage = .idle ∧ resType = RES_TYPE_APP_INSTALL_UNINSTALL then
          if value = APP_INSTALL_START then current.installs + 1
          else if value = APP_INSTALL_END then current.installs - 1
          else current.installs
        else current.installs
    | _ => current.installs

/-- The reports as marks, a start being an opening one. -/
def marks (reports : List ContinuousInstallStatus) : List Bool :=
  reports.map fun status => status = .START_CONTINUOUS_INSTALL

/-- The reports strictly alternate, the first one being a start. -/
def ReportsAlternate (current : InstallRun) : Prop :=
  Pairing.Alternates (marks current.recognizer.reports)

instance (current : InstallRun) : Decidable (ReportsAlternate current) :=
  inferInstanceAs (Decidable (Pairing.Alternates _))

/-- The last report was a start. -/
def ContinuousAppInstallRecognizer.isOpen (recognizer : ContinuousAppInstallRecognizer) : Bool :=
  Pairing.isOpen (marks recognizer.reports)

/-- While no exit task is between its report and its store, the flag says whether the last report
was a start, but for the time between a start report and its store. -/
structure InstallRun.Sound (current : InstallRun) : Prop where
  alternates : ReportsAlternate current
  fresh : ∀ handle stage, current.recognizer.tasks.lookup handle = some stage →
    handle < current.recognizer.submitted
  busy : current.recognizer.stage ≠ .idle →
    0 < current.installs ∧ current.recognizer.isInContinuousInstall_ = false
  level : (∀ handle, current.recognizer.tasks.lookup handle ≠ some .reported) →
    current.recognizer.isOpen =
      (current.recognizer.isInContinuousInstall_ || current.recognizer.stage = .storing)
  stopped : ∀ handle, current.recognizer.tasks.lookup handle = some .reported →
    (∀ other, current.recognizer.tasks.lookup other = some .reported → other = handle) ∧
      current.recognizer.isInContinuousInstall_ = true ∧ current.recognizer.isOpen = false

section

variable {current : InstallRun} (h : current.Sound)

include h

/-- A change that leaves the reports, the flag and the tasks between report and store as they are
keeps the invariant of an idle recognizer. -/
theorem InstallRun.Sound.of_same {recognizer : ContinuousAppInstallRecognizer} {installs : Nat}
    (hidle : current.recognizer.stage = .idle)
    (hreports : recognizer.reports = current.recognizer.reports)
    (hflag : recognizer.isInContinuousInstall_ = current.recognizer.isInContinuousInstall_)
    (hreported : ∀ handle, recognizer.tasks.lookup handle = some .reported ↔
      current.recognizer.tasks.lookup handle = some .reported)
    (hfresh : ∀ handle stage, recognizer.tasks.lookup handle = some stage →
      handle < recognizer.submitted)
    (hstage : recognizer.stage = .idle ∨ recognizer.stage = .reporting ∧
      current.recognizer.isInContinuousInstall_ = false ∧ 0 < installs) :
    InstallRun.Sound ⟨recognizer, installs⟩ := by
  have hopen : recognizer.isOpen = current.recognizer.isOpen := by
    rw [ContinuousAppInstallRecognizer.isOpen, hreports, ContinuousAppInstallRecognizer.isOpen]
  refine ⟨?_, hfresh, ?_, ?_, ?_⟩
  · rw [ReportsAlternate, hreports]
    exact h.alternates
  · intro hbusy
    obtain hsame | ⟨_, hunset, hinstalls⟩ := hstage
    · exact absurd hsame hbusy
    · exact ⟨hinstalls, hflag.trans hunset⟩
  · intro hnone
    have hlevel := h.level fun handle hstage => hnone handle ((hreported handle).mpr hstage)
    rw [hidle] at hlevel
    rw [hopen, hlevel, hflag]
    obtain hsame | ⟨hsame, _⟩ := hstage
    · rw [hsame]
    · rw [hsame]
      rfl
  · intro handle hstage
    obtain ⟨hunique, hset, hclosed⟩ := h.stopped handle ((hreported handle).mp hstage)
    exact ⟨fun other hother => hunique other ((hreported other).mp hother), hflag.trans hset,
      hopen.trans hclosed⟩

end

/-! ## Main result -/

end ResSched.SceneRecognize.ContinuousInstall
