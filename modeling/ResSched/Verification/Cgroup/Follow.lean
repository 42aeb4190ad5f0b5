import ResSched.Verification.Cgroup.Adjuster

/-! # Processes that follow their host

The group of a render, GPU or child process against the group of its host.
-/

namespace ResSched.Cgroup

/-! ## The property -/

/-- The followers of a live record that has been adjusted have its group. -/
def Follows (adjusted : Int → Prop) (app : Application) : Prop :=
  ∀ pid record, app.pidsMap.lookup pid = some record → followsHost record = true →
    ∀ host, app.pidsMap.lookup record.hostPid = some host → adjusted record.hostPid →
      record.curSchedGroup = host.curSchedGroup

/-- The group of a process that is not asked for its host. -/
def groupWithoutHost (env : External) (app : Application) (pid : Int) (record : ProcessRecord)
    (source : AdjustSource) : SchedPolicy :=
  if source = .ADJS_PROCESS_CREATE then .SP_DEFAULT
  else if app.focusedProcess.map RecordPointer.pid = some pid then .SP_TOP_APP
  else ownGroup env record

/-- Where adjusting a process does not part it from its host, nor its followers from it. -/
@[mk_iff]
structure FollowKept (env : External) (adjusted : Int → Prop) (app : Application) (pid : Int)
    (source : AdjustSource) (record : ProcessRecord) : Prop where
  /-- A follower is a render process, or has the group of its host in its own right. A host that
  follows this very process gets its group anyway. -/
  own : ∀ host, app.pidsMap.lookup record.hostPid = some host →
    followsHost record = true ∧ record.hostPid ≠ pid ∧ adjusted record.hostPid ∧
      ¬ (pid ∈ app.hostPidsSet ∧ followsPid host pid = true) →
        record.processType = RENDER ∨
          groupWithoutHost env app pid record source = host.curSchedGroup
  /-- The process is listed as a host, or its followers already have its new group. -/
  followers : ∀ other follower, app.pidsMap.lookup other = some follower →
    other ≠ pid ∧ followsPid follower pid = true ∧ pid ∉ app.hostPidsSet →
      follower.curSchedGroup = ComputeProcessGroup env app pid record source
  /-- The followers have no followers themselves, or these already have the new group. -/
  nested : ∀ middle host, app.pidsMap.lookup middle = some host →
    middle ≠ pid ∧ followsPid host pid = true ∧ pid ∈ app.hostPidsSet ∧ adjusted middle →
      ∀ other follower, app.pidsMap.lookup other = some follower →
        other ≠ pid ∧ followsPid follower middle = true →
          follower.curSchedGroup = ComputeProcessGroup env app pid record source

/-! ## Adjusting one process -/

/-- Adjusting gives the process, and when it is a host also its followers, the new group. -/
theorem AdjustProcessGroup_effect (env : External) (hmoved : AllMoved env) (app : Application)
    (pid : Int) (source : AdjustSource) (record : ProcessRecord)
    (hrecord : app.pidsMap.lookup pid = some record) (other : Int) (after : ProcessRecord)
    (hafter : (AdjustProcessGroup env app pid source).pidsMap.lookup other = some after) :
    ∃ before, app.pidsMap.lookup other = some before ∧ SameButGroups before after ∧
      after.curSchedGroup =
        if other = pid ∨ (pid ∈ app.hostPidsSet ∧ followsPid before pid = true) then
          ComputeProcessGroup env app pid record source
        else before.curSchedGroup := by
  rw [lookup_AdjustProcessGroup env app pid source record hrecord, lookup_withRecord,
    curSchedGroup_regroup env hmoved] at hafter
  set group := ComputeProcessGroup env app pid record source
  by_cases hother : other = pid
  · subst hother
    rw [if_pos rfl, hrecord] at hafter
    refine ⟨record, hrecord, ?_⟩
    rw [if_pos (Or.inl rfl)]
    simp only [Option.map_some, Option.some.injEq] at hafter
    have hfirst := regroup_sameButGroups env other group record
    split_ifs at hafter with hfollows
    · subst hafter
      exact ⟨hfirst.trans (regroup_sameButGroups env other group _),
        curSchedGroup_regroup env hmoved other group _⟩
    · subst hafter
      exact ⟨hfirst, curSchedGroup_regroup env hmoved other group record⟩
  · rw [if_neg hother] at hafter
    obtain ⟨before, hbefore, hmap⟩ := Option.map_eq_some_iff.mp hafter
    refine ⟨before, hbefore, ?_⟩
    split_ifs at hmap with hfollows
    · subst hmap
      rw [if_pos (Or.inr hfollows)]
      exact ⟨regroup_sameButGroups env other group before,
        curSchedGroup_regroup env hmoved other group before⟩
    · subst hmap
      rw [if_neg (not_or.mpr ⟨hother, hfollows⟩)]
      exact ⟨SameButGroups.refl before, rfl⟩

/-- The property apart from one process, as a follower and as a host. -/
def FollowsExcept (except : Int) (adjusted : Int → Prop) (app : Application) : Prop :=
  ∀ pid record host, pid ≠ except → record.hostPid ≠ except →
    app.pidsMap.lookup pid = some record → followsHost record = true →
      app.pidsMap.lookup record.hostPid = some host → adjusted record.hostPid →
        record.curSchedGroup = host.curSchedGroup

theorem ComputeProcessGroup_render (env : External) (app : Application) (pid : Int)
    (record host : ProcessRecord) (source : AdjustSource) (htype : record.processType = RENDER)
    (hhost : app.pidsMap.lookup record.hostPid = some host) :
    ComputeProcessGroup env app pid record source = host.curSchedGroup := by
  rw [ComputeProcessGroup]
  rw [if_pos htype, hhost]

theorem ComputeProcessGroup_other (env : External) (app : Application) (pid : Int)
    (record : ProcessRecord) (source : AdjustSource) (htype : record.processType ≠ RENDER) :
    ComputeProcessGroup env app pid record source = groupWithoutHost env app pid record source := by
  rw [ComputeProcessGroup]
  rw [if_neg htype]
  rfl

theorem followsPid_iff (record : ProcessRecord) (pid : Int) :
    followsPid record pid = true ↔ followsHost record = true ∧ record.hostPid = pid := by
  simp [followsPid]

theorem lookup_AdjustProcessGroup_of_lookup (env : External) (hmoved : AllMoved env)
    (app : Application) (pid : Int) (source : AdjustSource) (record : ProcessRecord)
    (hrecord : app.pidsMap.lookup pid = some record) (other : Int) (before : ProcessRecord)
    (hbefore : app.pidsMap.lookup other = some before) :
    ∃ after, (AdjustProcessGroup env app pid source).pidsMap.lookup other = some after ∧
      SameButGroups before after ∧
      after.curSchedGroup =
        if other = pid ∨ (pid ∈ app.hostPidsSet ∧ followsPid before pid = true) then
          ComputeProcessGroup env app pid record source
        else before.curSchedGroup := by
  obtain ⟨after, hafter, _⟩ :=
    (AdjustProcessGroup_regrouped env app pid source).found other before hbefore
  obtain ⟨before', hbefore', hsame, hgroup⟩ :=
    AdjustProcessGroup_effect env hmoved app pid source record hrecord other after hafter
  obtain rfl := Option.some.inj (hbefore'.symm.trans hbefore)
  exact ⟨after, hafter, hsame, hgroup⟩

/-- A follower that is adjusted takes the group of its host. -/
theorem FollowKept.group_eq {env : External} {adjusted : Int → Prop} {app : Application}
    {pid : Int} {source : AdjustSource} {record : ProcessRecord}
    (hkept : FollowKept env adjusted app pid source record) (hfollows : followsHost record = true)
    {host : ProcessRecord} (hhost : app.pidsMap.lookup record.hostPid = some host)
    (hne : record.hostPid ≠ pid) (hadjusted : adjusted record.hostPid)
    (hfree : ¬ (pid ∈ app.hostPidsSet ∧ followsPid host pid = true)) :
    ComputeProcessGroup env app pid record source = host.curSchedGroup := by
  by_cases htype : record.processType = RENDER
  · exact ComputeProcessGroup_render env app pid record host source htype hhost
  · rw [ComputeProcessGroup_other env app pid record source htype]
    exact (hkept.own host hhost ⟨hfollows, hne, hadjusted, hfree⟩).resolve_left htype

/-- Adjusting a process restores the property at that process and keeps it elsewhere. -/
theorem AdjustProcessGroup_follows (env : External) (hmoved : AllMoved env)
    (adjusted : Int → Prop) (app : Application) (pid : Int) (source : AdjustSource)
    (record : ProcessRecord) (hrecord : app.pidsMap.lookup pid = some record)
    (hexcept : FollowsExcept pid adjusted app)
    (hkept : FollowKept env adjusted app pid source record) :
    Follows (fun other => other = pid ∨ adjusted other)
      (AdjustProcessGroup env app pid source) := by
  intro other after hafter hfollows hostAfter hhostAfter hadjusted
  have heffect := AdjustProcessGroup_effect env hmoved app pid source record hrecord
  obtain ⟨before, hbefore, hsame, hgroup⟩ := heffect other after hafter
  obtain ⟨hostBefore, hhostBefore, _, hhostGroup⟩ := heffect _ hostAfter hhostAfter
  obtain ⟨_, _, _, rfl⟩ := hsame
  -- both records keep their type and host, so the original ones can be compared
  change followsHost before = true at hfollows
  dsimp only at hhostBefore hadjusted hhostGroup hgroup ⊢
  rw [hgroup, hhostGroup]
  by_cases hhost : before.hostPid = pid
  · rw [if_pos (Or.inl hhost)]
    by_cases hother : other = pid
    · rw [if_pos (Or.inl hother)]
    · have hfollowsPid := (followsPid_iff before pid).mpr ⟨hfollows, hhost⟩
      by_cases hlisted : pid ∈ app.hostPidsSet
      · rw [if_pos (Or.inr ⟨hlisted, hfollowsPid⟩)]
      · rw [if_neg (not_or.mpr ⟨hother, fun h => hlisted h.1⟩)]
        exact hkept.followers other before hbefore ⟨hother, hfollowsPid, hlisted⟩
  · have hbeforeAdjusted := hadjusted.resolve_left hhost
    have hnotFollows : followsPid before pid ≠ true := fun h =>
      hhost ((followsPid_iff before pid).mp h).2
    by_cases hother : other = pid
    · subst hother
      obtain rfl := Option.some.inj (hrecord.symm.trans hbefore)
      rw [if_pos (Or.inl rfl)]
      split_ifs with hregrouped
      · rfl
      · exact hkept.group_eq hfollows hhostBefore hhost hbeforeAdjusted
          fun h => hregrouped (Or.inr h)
    · rw [if_neg (not_or.mpr ⟨hother, fun h => hnotFollows h.2⟩)]
      split_ifs with hregrouped
      · obtain ⟨hlisted, hnested⟩ := hregrouped.resolve_left hhost
        exact hkept.nested before.hostPid hostBefore hhostBefore
          ⟨hhost, hnested, hlisted, hbeforeAdjusted⟩ other before hbefore
          ⟨hother, (followsPid_iff before before.hostPid).mpr ⟨hfollows, rfl⟩⟩
      · exact hexcept other before hostBefore hother hhost hbefore hfollows hhostBefore
          hbeforeAdjusted

/-- The condition is no stronger than needed: it holds wherever the adjusted process and its
followers agree with their hosts afterwards. -/
theorem followKept_of_follows (env : External) (hmoved : AllMoved env)
    (adjusted : Int → Prop) (app : Application) (pid : Int) (source : AdjustSource)
    (record : ProcessRecord) (hrecord : app.pidsMap.lookup pid = some record)
    (h : Follows (fun other => other = pid ∨ adjusted other)
      (AdjustProcessGroup env app pid source)) :
    FollowKept env adjusted app pid source record := by
  have hfound := lookup_AdjustProcessGroup_of_lookup env hmoved app pid source record hrecord
  obtain ⟨after, hafter, hsame, hgroup⟩ := hfound pid record hrecord
  rw [if_pos (Or.inl rfl)] at hgroup
  constructor
  · rintro host hhost ⟨hfollows, hne, hadjusted, hfree⟩
    obtain ⟨hostAfter, hhostAfter, _, hhostGroup⟩ := hfound _ host hhost
    rw [if_neg (not_or.mpr ⟨hne, hfree⟩)] at hhostGroup
    obtain ⟨_, _, _, rfl⟩ := hsame
    have heq := h pid _ hafter hfollows hostAfter hhostAfter (Or.inr hadjusted)
    rw [hgroup, hhostGroup] at heq
    by_cases htype : record.processType = RENDER
    · exact Or.inl htype
    · exact Or.inr ((ComputeProcessGroup_other env app pid record source htype).symm.trans heq)
  · rintro other follower hfollower ⟨hother, hfollows, hlisted⟩
    obtain ⟨followerAfter, hfollowerAfter, hfollowerSame, hfollowerGroup⟩ :=
      hfound other follower hfollower
    rw [if_neg (not_or.mpr ⟨hother, fun h => hlisted h.1⟩)] at hfollowerGroup
    obtain ⟨htype, hhost⟩ := (followsPid_iff follower pid).mp hfollows
    obtain ⟨_, _, _, rfl⟩ := hfollowerSame
    have heq := h other _ hfollowerAfter htype after (hhost ▸ hafter) (Or.inl hhost)
    rw [← hfollowerGroup, heq, hgroup]
  · rintro middle host hhost ⟨hmiddle, hnested, hlisted, hadjusted⟩ other follower hfollower
      ⟨hother, hfollows⟩
    obtain ⟨hostAfter, hhostAfter, _, hhostGroup⟩ := hfound middle host hhost
    rw [if_pos (Or.inr ⟨hlisted, hnested⟩)] at hhostGroup
    obtain ⟨followerAfter, hfollowerAfter, hfollowerSame, hfollowerGroup⟩ :=
      hfound other follower hfollower
    obtain ⟨htype, hfollowerHost⟩ := (followsPid_iff follower middle).mp hfollows
    have hnotFollows : ¬ followsPid follower pid = true := fun h =>
      hmiddle (hfollowerHost.symm.trans ((followsPid_iff follower pid).mp h).2)
    rw [if_neg (not_or.mpr ⟨hother, fun h => hnotFollows h.2⟩)] at hfollowerGroup
    obtain ⟨_, _, _, rfl⟩ := hfollowerSame
    have heq := h other _ hfollowerAfter htype hostAfter (hfollowerHost ▸ hhostAfter)
      (Or.inr (hfollowerHost ▸ hadjusted))
    rw [← hfollowerGroup, heq, hhostGroup]

theorem AdjustProcessGroup_follows_iff (env : External) (hmoved : AllMoved env)
    (adjusted : Int → Prop) (app : Application) (pid : Int) (source : AdjustSource)
    (record : ProcessRecord) (hrecord : app.pidsMap.lookup pid = some record)
    (hexcept : FollowsExcept pid adjusted app) :
    Follows (fun other => other = pid ∨ adjusted other) (AdjustProcessGroup env app pid source) ↔
      FollowKept env adjusted app pid source record :=
  ⟨followKept_of_follows env hmoved adjusted app pid source record hrecord,
    AdjustProcessGroup_follows env hmoved adjusted app pid source record hrecord hexcept⟩

/-! ## The update of the records -/

/-- Every follower was one before, with the same host and group; records may go. -/
def GroupsKept (before after : Application) : Prop :=
  ∀ pid record', after.pidsMap.lookup pid = some record' →
    (∃ record, before.pidsMap.lookup pid = some record ∧ GroupKept record record') ∨
      (before.pidsMap.lookup pid = none ∧ followsHost record' = false)

theorem GroupKept.refl (record : ProcessRecord) : GroupKept record record :=
  ⟨rfl, rfl, rfl⟩

theorem GroupsKept.refl (app : Application) : GroupsKept app app :=
  fun _ record h => Or.inl ⟨record, h, GroupKept.refl record⟩

theorem GroupKept.followsHost {before after : ProcessRecord} (h : GroupKept before after) :
    followsHost after = Cgroup.followsHost before := by
  unfold Cgroup.followsHost
  rw [h.processType]

theorem follows_of_groupsKept {adjusted : Int → Prop} {before after : Application}
    (h : GroupsKept before after)
    (hlive : ∀ pid, adjusted pid → (before.pidsMap.lookup pid).isSome = true)
    (hfollows : Follows adjusted before) : Follows adjusted after := by
  intro pid record' hrecord' htype host' hhost' hadjusted
  rcases h pid record' hrecord' with ⟨record, hrecord, hkept⟩ | ⟨_, hnot⟩
  · rcases h record'.hostPid host' hhost' with ⟨host, hhost, hhostKept⟩ | ⟨hnone, _⟩
    · rw [hkept.hostPid] at hhost hadjusted
      rw [hkept.curSchedGroup, hhostKept.curSchedGroup]
      exact hfollows pid record hrecord (hkept.followsHost ▸ htype) host hhost hadjusted
    · have hsome := hlive _ hadjusted
      rw [hnone] at hsome
      exact absurd hsome (by simp)
  · rw [hnot] at htype
    exact absurd htype (by simp)

theorem AppKept.groupsKept {before after : Application} (h : AppKept before after) :
    GroupsKept before after := by
  intro pid record' hafter
  cases hbefore : before.pidsMap.lookup pid with
  | some record =>
      obtain ⟨record'', hafter', hkept⟩ := h.records.found pid record hbefore
      obtain rfl := Option.some.inj (hafter'.symm.trans hafter)
      exact Or.inl ⟨record, rfl, hkept.2⟩
  | none =>
      obtain ⟨address, hkept⟩ := h.records.made pid record' hbefore hafter
      exact Or.inr ⟨rfl, hkept.2.followsHost.trans rfl⟩

theorem focusApplication_groupsKept (windowId : Nat) (windowType displayId pid : Int)
    (app : Application) :
    GroupsKept app (focusApplication windowId windowType displayId pid app) := by
  intro other record' hafter
  rw [lookup_focusApplication] at hafter
  by_cases hother : other = pid
  · subst hother
    rw [if_pos rfl] at hafter
    obtain rfl := Option.some.inj hafter
    cases hbefore : app.pidsMap.lookup other with
    | some record => exact Or.inl ⟨record, rfl, rfl, rfl, rfl⟩
    | none => exact Or.inr ⟨rfl, rfl⟩
  · rw [if_neg hother] at hafter
    exact Or.inl ⟨record', hafter, GroupKept.refl record'⟩

theorem unfocusApplication_groupsKept (windowId : Nat) (windowType displayId pid : Int)
    (app : Application) :
    GroupsKept app (unfocusApplication windowId windowType displayId pid app) := by
  intro other record' hafter
  rw [lookup_unfocusApplication] at hafter
  split_ifs at hafter
  · obtain ⟨record, hbefore, rfl⟩ := Option.map_eq_some_iff.mp hafter
    exact Or.inl ⟨record, hbefore, rfl, rfl, rfl⟩
  · exact Or.inl ⟨record', hafter, GroupKept.refl record'⟩

theorem new_groupsKept (app : Application) : GroupsKept app Application.new :=
  fun _ _ h => absurd h (by simp [Application.new])

theorem endProcess_groupsKept (pid : Int) (app : Application) :
    GroupsKept app (endProcess pid app) := by
  rw [endProcess]
  split_ifs
  · exact new_groupsKept app
  · intro other record' hafter
    rw [lookup_RemoveProcessRecord] at hafter
    split_ifs at hafter
    exact Or.inl ⟨record', hafter, GroupKept.refl record'⟩

/-- What does not create a process keeps the groups. -/
theorem appChange_groupsKept {env : External} {act : RecordAct} {uid : Int}
    {before after : Application} (hchange : AppChange env act uid before after)
    (hcreated : ∀ info, act = .created info → uid ≠ info.uid) : GroupsKept before after := by
  cases act with
  | focused info =>
      simp only [AppChange] at hchange
      subst hchange
      split_ifs
      · exact focusApplication_groupsKept _ _ _ _ before
      · exact GroupsKept.refl before
  | unfocused info =>
      simp only [AppChange] at hchange
      subst hchange
      split_ifs
      · exact unfocusApplication_groupsKept _ _ _ _ before
      · exact GroupsKept.refl before
  | created info =>
      simp only [AppChange] at hchange
      rw [if_neg (hcreated info rfl)] at hchange
      subst hchange
      exact GroupsKept.refl after
  | died ofUid pid =>
      simp only [AppChange] at hchange
      subst hchange
      split_ifs
      · exact endProcess_groupsKept pid before
      · exact GroupsKept.refl before
  | stopped ofUid =>
      simp only [AppChange] at hchange
      subst hchange
      split_ifs
      · exact new_groupsKept before
      · exact GroupsKept.refl before
  | other => exact AppKept.groupsKept hchange

/-- Creating a process leaves the others as they are. -/
theorem createApplication_followsExcept {env : External} {info : ProcessCreateInfo}
    {app : Application} {adjusted : Int → Prop} (hfollows : Follows adjusted app) :
    FollowsExcept info.pid adjusted (createApplication env info app) := by
  intro pid record host hpid hhostPid hrecord htype hhost hadjusted
  rw [lookup_createApplication, if_neg hpid] at hrecord
  rw [lookup_createApplication, if_neg hhostPid] at hhost
  exact hfollows pid record hrecord htype host hhost hadjusted


end ResSched.Cgroup
