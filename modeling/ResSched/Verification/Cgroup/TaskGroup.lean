import ResSched.Library.DecimalText
import ResSched.Library.Transition
import ResSched.Model.Cgroup.TaskGroup

/-! # Reading a policy back

When exactly the group a task is in gives the policy it was configured for.
-/

namespace ResSched.CgroupSetting

open Transition TextSearch

/-! ## Declared policies -/

/-- No two policies have one name, all are below the limit, and the default one is declared. -/
structure Declared (fullNames : AssocMap Nat String) : Prop where
  unique : ∀ policy policy' fullName, fullNames.lookup policy = some fullName →
    fullNames.lookup policy' = some fullName → policy = policy'
  below : ∀ policy fullName, fullNames.lookup policy = some fullName → policy < SP_UPPER_LIMIT
  hasDefault : (fullNames.lookup SP_DEFAULT).isSome = true

theorem declared_start : Declared Declarations.start.fullNames_ := by
  have hlookup : ∀ policy fullName, Declarations.start.fullNames_.lookup policy = some fullName →
      (policy, fullName) ∈ [(0, "sp_default"), (1, "sp_background"), (2, "sp_foreground"),
        (3, "sp_system_background"), (4, "sp_top_app")] := by
    rw [AssocMap.forall_lookup_iff]
    decide
  constructor
  · intro policy policy' fullName h h'
    have hmem := hlookup policy fullName h
    have hmem' := hlookup policy' fullName h'
    simp only [List.mem_cons, Prod.mk.injEq, List.not_mem_nil, or_false] at hmem hmem'
    obtain ⟨rfl, rfl⟩ | ⟨rfl, rfl⟩ | ⟨rfl, rfl⟩ | ⟨rfl, rfl⟩ | ⟨rfl, rfl⟩ := hmem <;>
      simpa [eq_comm] using hmem'
  · intro policy fullName h
    have hmem := hlookup policy fullName h
    simp only [List.mem_cons, Prod.mk.injEq, List.not_mem_nil, or_false] at hmem
    rw [SP_UPPER_LIMIT]
    omega
  · decide

theorem declared_add {declarations : Declarations} (h : Declared declarations.fullNames_)
    (declaration : Declaration) :
    Declared (declarations.AddSchedPolicyDeclaration declaration).fullNames_ := by
  rw [Declarations.AddSchedPolicyDeclaration]
  split_ifs with _ hlimit _ hpolicy hname
  all_goals try exact h
  have hnew : ∀ policy, declarations.fullNames_.lookup policy ≠ some declaration.fullName := by
    intro policy hlookup
    refine hname (List.any_eq_true.mpr ⟨⟨policy, declaration.fullName⟩, ?_, by simp⟩)
    exact (AssocMap.mem_entries_iff _ _ _).mpr hlookup
  constructor
  · intro policy policy' fullName hlookup hlookup'
    dsimp only at hlookup hlookup'
    rw [AssocMap.lookup_insert_ite] at hlookup hlookup'
    split_ifs at hlookup hlookup' with hsame hsame' hsame'
    · rw [hsame, hsame']
    · rw [← Option.some.inj hlookup] at hlookup'
      exact absurd hlookup' (hnew policy')
    · rw [← Option.some.inj hlookup'] at hlookup
      exact absurd hlookup (hnew policy)
    · exact h.unique policy policy' fullName hlookup hlookup'
  · intro policy fullName hlookup
    dsimp only at hlookup
    rw [AssocMap.lookup_insert_ite] at hlookup
    split_ifs at hlookup with hsame
    · rw [hsame]
      omega
    · exact h.below policy fullName hlookup
  · dsimp only
    rw [AssocMap.lookup_insert_ite]
    split_ifs
    · rfl
    · exact h.hasDefault

theorem declared_run (declarations : List Declaration) :
    Declared
      (run Declarations.AddSchedPolicyDeclaration .start declarations).fullNames_ :=
  (always_of_step Declarations.AddSchedPolicyDeclaration
    (P := fun declarations : Declarations => Declared declarations.fullNames_)
    (fun _ declaration h => declared_add h declaration) declarations _ declared_start).last

/-! ## What one controller reads -/

/-- Behind the first tag stand one character and the subgroup, up to the end of the line. -/
def Holds (tag content subgroup : List UInt8) : Prop :=
  ∃ front skipped back, FirstAt tag front content ∧
    content = front ++ tag ++ skipped :: (subgroup ++ back) ∧ '\n'.toUInt8 ∉ subgroup ∧
    (back = [] ∨ ∃ rest, back = '\n'.toUInt8 :: rest)

/-- The content ends right behind the first tag. -/
def EndsBehind (tag content : List UInt8) : Prop :=
  ∃ front, FirstAt tag front content ∧ content = front ++ tag

/-- A content with a tag ends behind the first one, or holds a subgroup there. -/
theorem endsBehind_or_holds {tag content : List UInt8} (h : tag <:+: content) :
    EndsBehind tag content ∨ ∃ subgroup, Holds tag content subgroup := by
  have hsome : find tag content ≠ none := fun hnone => (find_eq_none_iff tag content).mp hnone h
  obtain ⟨i, hfind⟩ := Option.ne_none_iff_exists'.mp hsome
  obtain ⟨front, -, hfirst⟩ := (find_eq_some_iff tag content i).mp hfind
  obtain ⟨rest, hrest⟩ := hfirst.1
  cases rest with
  | nil => exact Or.inl ⟨front, hfirst, by rw [← hrest, List.append_nil]⟩
  | cons skipped behind =>
      obtain ⟨hline, back, hback, hend⟩ := (takeWhile_eq_iff '\n'.toUInt8 behind _).mp rfl
      exact Or.inr ⟨_, front, skipped, back, hfirst, by rw [← hback, ← hrest], hline, hend⟩

section

variable (controller : CgroupController) {content : List UInt8}

theorem GetTaskGroup_of_absent (h : ¬ controller.cgTag <:+: content) :
    controller.GetTaskGroup (some content) = .ok none := by
  rw [CgroupController.GetTaskGroup]
  dsimp only
  rw [(find_eq_none_iff controller.cgTag content).mpr h]

theorem GetTaskGroup_of_firstAt {front : List UInt8}
    (hfirst : FirstAt controller.cgTag front content) :
    controller.GetTaskGroup (some content) =
      if content.length < front.length + (controller.cgTag.length + 1) then .error .out_of_range
      else .ok (some ((content.drop (front.length + (controller.cgTag.length + 1))).takeWhile
        fun d => d ≠ '\n'.toUInt8)) := by
  rw [CgroupController.GetTaskGroup]
  dsimp only
  rw [(find_eq_some_iff controller.cgTag content front.length).mpr ⟨front, rfl, hfirst⟩]
  dsimp only
  rw [substr_findFrom]
  split_ifs <;> rfl

theorem GetTaskGroup_of_endsBehind (h : EndsBehind controller.cgTag content) :
    controller.GetTaskGroup (some content) = .error .out_of_range := by
  obtain ⟨front, hfirst, hcontent⟩ := h
  rw [GetTaskGroup_of_firstAt controller hfirst, if_pos]
  rw [hcontent, List.length_append]
  omega

theorem GetTaskGroup_of_holds {subgroup : List UInt8}
    (h : Holds controller.cgTag content subgroup) :
    controller.GetTaskGroup (some content) = .ok (some subgroup) := by
  obtain ⟨front, skipped, back, hfirst, hcontent, hline, hend⟩ := h
  have hdrop : content.drop (front.length + (controller.cgTag.length + 1)) = subgroup ++ back := by
    rw [hcontent, ← Nat.add_assoc, ← List.length_append, ← List.drop_drop, List.drop_left]
    rfl
  rw [GetTaskGroup_of_firstAt controller hfirst, if_neg, hdrop]
  · rw [(takeWhile_eq_iff '\n'.toUInt8 (subgroup ++ back) subgroup).mpr
      ⟨hline, back, rfl, hend⟩]
  · rw [hcontent, List.length_append, List.length_append, List.length_cons]
    omega

end

/-! ## What the controllers read -/

/-- The first controller whose tag stands in the content. -/
def Decides (controllers : List CgroupController) (content : List UInt8)
    (controller : CgroupController) : Prop :=
  controller.cgTag <:+: content ∧ ∃ before after, controllers = before ++ controller :: after ∧
    ∀ other ∈ before, ¬ other.cgTag <:+: content

theorem not_decides_nil (content : List UInt8) (controller : CgroupController) :
    ¬ Decides [] content controller := by
  rintro ⟨-, before, after, hnil, -⟩
  simp at hnil

theorem decides_cons_iff (head : CgroupController) (controllers : List CgroupController)
    (content : List UInt8) (controller : CgroupController) :
    Decides (head :: controllers) content controller ↔
      if head.cgTag <:+: content then controller = head
      else Decides controllers content controller := by
  split_ifs with htag
  · constructor
    · rintro ⟨-, before, after, hsame, hbefore⟩
      cases before with
      | nil => exact (List.cons.inj hsame).1.symm
      | cons other before =>
          rw [List.cons_append, List.cons.injEq] at hsame
          exact absurd (hsame.1 ▸ htag) (hbefore other List.mem_cons_self)
    · rintro rfl
      exact ⟨htag, [], controllers, rfl, fun _ h => absurd h List.not_mem_nil⟩
  · constructor
    · rintro ⟨hmine, before, after, hsame, hbefore⟩
      cases before with
      | nil => exact absurd ((List.cons.inj hsame).1 ▸ hmine) htag
      | cons other before =>
          rw [List.cons_append, List.cons.injEq] at hsame
          exact ⟨hmine, before, after, hsame.2, fun other' h =>
            hbefore other' (List.mem_cons_of_mem _ h)⟩
    · rintro ⟨hmine, before, after, hsame, hbefore⟩
      refine ⟨hmine, head :: before, after, by rw [hsame, List.cons_append], ?_⟩
      intro other h
      rcases List.mem_cons.mp h with rfl | h
      · exact htag
      · exact hbefore other h

section

variable (controllers : List CgroupController) (content : List UInt8)

/-- The three ways the loop can end. -/
theorem firstTaskGroup_spec :
    (firstTaskGroup (some content) controllers = .ok none ∧
        ∀ controller, ¬ Decides controllers content controller) ∨
      ∃ controller, Decides controllers content controller ∧
        (∀ other, Decides controllers content other → other = controller) ∧
        (EndsBehind controller.cgTag content ∧
            firstTaskGroup (some content) controllers = .error .out_of_range ∨
          ∃ subgroup, Holds controller.cgTag content subgroup ∧
            firstTaskGroup (some content) controllers = .ok (some subgroup)) := by
  induction controllers with
  | nil => exact Or.inl ⟨rfl, not_decides_nil content⟩
  | cons head controllers ih =>
      simp only [decides_cons_iff, firstTaskGroup]
      split_ifs with htag
      · refine Or.inr ⟨head, rfl, fun _ h => h, ?_⟩
        obtain hends | ⟨subgroup, hholds⟩ := endsBehind_or_holds htag
        · rw [GetTaskGroup_of_endsBehind head hends]
          exact Or.inl ⟨hends, rfl⟩
        · rw [GetTaskGroup_of_holds head hholds]
          exact Or.inr ⟨subgroup, hholds, rfl⟩
      · rw [GetTaskGroup_of_absent head htag]
        exact ih

end

/-! ## What the action returns -/

/-- The configuration is loaded, and the first controller asked for has its tasks file. -/
def CgroupAction.Enabled (kernel : Kernel) (action : CgroupAction) : Prop :=
  action.enable = true ∧ FirstAnswer.keptAfter (CgroupController.hasTasks kernel)
    action.cgroupMap.enabled action.cgroupMap.controllers = some true

/-- The subgroup spells the policy: an empty one the default policy, any other one the full name
behind `sp_` with dashes for underscores. -/
def Spells (fullNames : AssocMap Nat String) (subgroup : List UInt8) (policy : Nat) : Prop :=
  (subgroup = [] ∧ policy = SP_DEFAULT) ∨
    (subgroup ≠ [] ∧ (fullNames.lookup policy).map bytes = some (bytes "sp_" ++ replaceDash subgroup))

section

variable {kernel : Kernel} {action : CgroupAction}

theorem GetSchedPolicyByName_eq_iff (hdeclared : Declared action.fullNames_) (name : List UInt8)
    (policy : Nat) :
    action.GetSchedPolicyByName name = (0, policy) ↔
      (action.fullNames_.lookup policy).map bytes = some name := by
  rw [CgroupAction.GetSchedPolicyByName]
  cases hfind : (AssocMap.ascendingKeys action.fullNames_).find? fun policy =>
      (action.fullNames_.lookup policy).map bytes = some name with
  | none =>
      rw [List.find?_eq_none] at hfind
      refine iff_of_false (by simp) fun hname => ?_
      obtain ⟨fullName, hlookup, -⟩ := Option.map_eq_some_iff.mp hname
      refine hfind policy ?_ (by simpa using hname)
      rw [AssocMap.mem_ascendingKeys, AssocMap.mem_keys_iff]
      exact ⟨fullName, hlookup⟩
  | some found =>
      have hfound : (action.fullNames_.lookup found).map bytes = some name := by
        simpa using List.find?_some hfind
      dsimp only
      rw [Prod.mk.injEq, and_iff_right rfl]
      constructor
      · rintro rfl
        exact hfound
      · intro hname
        obtain ⟨fullName, hlookup, hbytes⟩ := Option.map_eq_some_iff.mp hname
        obtain ⟨fullName', hlookup', hbytes'⟩ := Option.map_eq_some_iff.mp hfound
        have hsame : fullName' = fullName := by
          rw [← String.toList_inj]
          exact Utf8.encode_injective (hbytes'.trans hbytes.symm)
        exact hdeclared.unique found policy fullName (hsame ▸ hlookup') hlookup

theorem GetSchedPolicyByName_returned (name : List UInt8) :
    action.GetSchedPolicyByName name = (-1, SP_UPPER_LIMIT) ∨
      ∃ policy, action.GetSchedPolicyByName name = (0, policy) ∧
        (action.fullNames_.lookup policy).isSome = true := by
  rw [CgroupAction.GetSchedPolicyByName]
  cases hfind : (AssocMap.ascendingKeys action.fullNames_).find? fun policy =>
      (action.fullNames_.lookup policy).map bytes = some name with
  | none => exact Or.inl rfl
  | some found =>
      refine Or.inr ⟨found, rfl, ?_⟩
      have hmem := List.mem_of_find?_eq_some hfind
      rwa [AssocMap.mem_ascendingKeys, AssocMap.mem_keys_iff, ← Option.isSome_iff_exists] at hmem

/-- What is returned for a subgroup that has been read. -/
def CgroupAction.policyOf (action : CgroupAction) (subgroup : List UInt8) : Int × Nat :=
  if subgroup.isEmpty then (0, SP_DEFAULT)
  else action.GetSchedPolicyByName (bytes "sp_" ++ replaceDash subgroup)

theorem policyOf_eq_iff (hdeclared : Declared action.fullNames_) (subgroup : List UInt8)
    (policy : Nat) :
    action.policyOf subgroup = (0, policy) ↔ Spells action.fullNames_ subgroup policy := by
  rw [CgroupAction.policyOf, Spells]
  cases subgroup with
  | nil => simp [eq_comm]
  | cons c subgroup =>
      rw [if_neg (by simp), GetSchedPolicyByName_eq_iff hdeclared]
      simp

theorem policyOf_returned (hdeclared : Declared action.fullNames_) (subgroup : List UInt8) :
    action.policyOf subgroup = (-1, SP_UPPER_LIMIT) ∨
      ∃ policy, action.policyOf subgroup = (0, policy) ∧
        (action.fullNames_.lookup policy).isSome = true := by
  rw [CgroupAction.policyOf]
  split_ifs
  · exact Or.inr ⟨SP_DEFAULT, rfl, hdeclared.hasDefault⟩
  · exact GetSchedPolicyByName_returned _

theorem GetSchedPolicy_of_not_enabled (h : ¬ action.Enabled kernel)
    (reply : Option (List UInt8)) :
    (action.GetSchedPolicy kernel reply).2 = .ok (-1, SP_UPPER_LIMIT) := by
  rw [CgroupAction.Enabled] at h
  rw [CgroupAction.GetSchedPolicy, CgroupMap.FindAllEnableCgroupControllers,
    FirstAnswer.collect_eq]
  cases henable : action.enable with
  | false => rfl
  | true =>
      rw [if_neg (by simp)]
      rw [if_neg fun hkept => h ⟨henable, hkept⟩]
      rfl

theorem GetSchedPolicy_of_enabled (h : action.Enabled kernel) (reply : Option (List UInt8)) :
    (action.GetSchedPolicy kernel reply).2 =
      (firstTaskGroup reply action.cgroupMap.controllers).map fun subgroup? =>
        subgroup?.elim (-1, SP_UPPER_LIMIT) action.policyOf := by
  obtain ⟨henable, hkept⟩ := h
  rw [CgroupAction.GetSchedPolicy, CgroupMap.FindAllEnableCgroupControllers,
    FirstAnswer.collect_eq, henable, hkept, if_neg (by simp), if_pos rfl, List.map_id]
  have hloop : (if (!action.cgroupMap.controllers.isEmpty) = true then
      firstTaskGroup reply action.cgroupMap.controllers else .ok none) =
        firstTaskGroup reply action.cgroupMap.controllers := by
    cases action.cgroupMap.controllers with
    | nil => rfl
    | cons controller controllers => rfl
  dsimp only
  rw [hloop]
  cases firstTaskGroup reply action.cgroupMap.controllers with
  | error thrown => rfl
  | ok subgroup? =>
      cases subgroup? with
      | none => rfl
      | some subgroup =>
          dsimp only [Except.map, Option.elim]
          rw [CgroupAction.policyOf]
          split_ifs <;> rfl

end

/-! ## Files of groups -/

/-- A line `id:controllers:/path`. -/
structure CgroupLine where
  id : Nat
  controllers : List (List UInt8)
  path : List UInt8

def CgroupLine.text (line : CgroupLine) : List UInt8 :=
  bytes (toString line.id) ++ bytes ":" ++ (bytes ",").intercalate line.controllers ++ bytes ":/" ++
    line.path

def CgroupLine.WellFormed (line : CgroupLine) : Prop :=
  (∀ name ∈ line.controllers,
    ':'.toUInt8 ∉ name ∧ ','.toUInt8 ∉ name ∧ '\n'.toUInt8 ∉ name) ∧
    '\n'.toUInt8 ∉ line.path

/-- The last line may lack its end. -/
def IsCgroupFile (lines : List CgroupLine) (content : List UInt8) : Prop :=
  (∀ line ∈ lines, line.WellFormed) ∧
    (content = (lines.flatMap fun line => line.text ++ bytes "\n") ∨
      content ++ bytes "\n" = lines.flatMap fun line => line.text ++ bytes "\n")

/-- The subgroup of a policy is its full name without `sp_` and with dashes for underscores, or the
empty one for the default policy. -/
def ConfiguredAs (policy : Nat) (fullName : String) (subgroup : List UInt8) : Prop :=
  (∃ name, bytes fullName = bytes "sp_" ++ name ∧
    subgroup = name.map fun c => if c = '_'.toUInt8 then '-'.toUInt8 else c) ∨
      (policy = SP_DEFAULT ∧ subgroup = [])

/-- The content is a file whose line for a controller names the subgroup of the policy. -/
def Names (action : CgroupAction) (content : List UInt8) (policy : Nat) : Prop :=
  ∃ lines line controller fullName, IsCgroupFile lines content ∧ line ∈ lines ∧
    controller ∈ action.cgroupMap.controllers ∧ bytes controller.name_ ∈ line.controllers ∧
    (∀ other ∈ lines, bytes controller.name_ ∈ other.controllers → other = line) ∧
    action.fullNames_.lookup policy = some fullName ∧ ConfiguredAs policy fullName line.path

/-- Every policy that the content names is returned; and for every content a policy is returned, or
-1 and the limit. -/
structure CgroupAction.ReadsBack (kernel : Kernel) (action : CgroupAction)
    (reply : Option (List UInt8)) : Prop where
  policy : ∀ content policy, reply = some content → Names action content policy →
    (action.GetSchedPolicy kernel reply).2 = .ok (0, policy)
  returned : ∃ result, (action.GetSchedPolicy kernel reply).2 = .ok result ∧
    (result = (-1, SP_UPPER_LIMIT) ∨
      ∃ policy, result = (0, policy) ∧ (action.fullNames_.lookup policy).isSome = true)

/-- The content does not end behind the first tag of the controller that decides, and what it holds
there spells every policy that it names. -/
structure CgroupAction.InOrder (kernel : Kernel) (action : CgroupAction)
    (content : List UInt8) : Prop where
  inside : action.Enabled kernel → ∀ controller,
    Decides action.cgroupMap.controllers content controller →
      ¬ EndsBehind controller.cgTag content
  spelled : ∀ policy, Names action content policy → action.Enabled kernel ∧
    ∃ controller subgroup, Decides action.cgroupMap.controllers content controller ∧
      Holds controller.cgTag content subgroup ∧ Spells action.fullNames_ subgroup policy

/-- The action with the policies that have been declared. -/
def CgroupAction.declare (declarations : List Declaration) (enable : Bool)
    (cgroupMap : CgroupMap) : CgroupAction where
  fullNames_ := (run Declarations.AddSchedPolicyDeclaration .start declarations).fullNames_
  enable := enable
  cgroupMap := cgroupMap

/-! ## The main result -/

section

variable {kernel : Kernel} {action : CgroupAction}

/-- Only one subgroup stands behind the first tag. -/
theorem Holds.unique {tag content subgroup subgroup' : List UInt8}
    (h : Holds tag content subgroup) (h' : Holds tag content subgroup') :
    subgroup = subgroup' := by
  obtain ⟨front, skipped, back, hfirst, hcontent, hline, hend⟩ := h
  obtain ⟨front', skipped', back', hfirst', hcontent', hline', hend'⟩ := h'
  obtain rfl := hfirst.unique hfirst'
  rw [hcontent, List.append_cancel_left_eq, List.cons.injEq] at hcontent'
  rw [← (takeWhile_eq_iff '\n'.toUInt8 _ _).mpr ⟨hline, back, rfl, hend⟩, hcontent'.2]
  exact (takeWhile_eq_iff '\n'.toUInt8 _ _).mpr ⟨hline', back', rfl, hend'⟩

theorem not_holds_of_endsBehind {tag content : List UInt8} (h : EndsBehind tag content)
    (subgroup : List UInt8) : ¬ Holds tag content subgroup := by
  rintro ⟨front, skipped, back, hfirst, hcontent, -⟩
  obtain ⟨front', hfirst', hends⟩ := h
  obtain rfl := hfirst.unique hfirst'
  rw [hends, List.append_assoc] at hcontent
  simp at hcontent

theorem readsBack_iff (hdeclared : Declared action.fullNames_) (content : List UInt8) :
    action.ReadsBack kernel (some content) ↔ action.InOrder kernel content := by
  by_cases henabled : action.Enabled kernel
  · have hreturned := GetSchedPolicy_of_enabled henabled (some content)
    obtain ⟨hloop, hnone⟩ | ⟨controller, hdecides, honly, hread⟩ :=
      firstTaskGroup_spec action.cgroupMap.controllers content
    · rw [hloop] at hreturned
      constructor
      · intro h
        refine ⟨fun _ controller hdecides => absurd hdecides (hnone controller), ?_⟩
        intro policy hnames
        have hpolicy := (h.policy content policy rfl hnames).symm.trans hreturned
        cases hpolicy
      · intro h
        refine ⟨?_, _, hreturned, Or.inl rfl⟩
        rintro _ policy ⟨⟩ hnames
        obtain ⟨-, controller, -, hdecides, -⟩ := h.spelled policy hnames
        exact absurd hdecides (hnone controller)
    · obtain ⟨hends, hloop⟩ | ⟨subgroup, hholds, hloop⟩ := hread
      · rw [hloop] at hreturned
        refine iff_of_false ?_ fun h => h.inside henabled controller hdecides hends
        rintro ⟨-, result, hresult, -⟩
        cases hresult.symm.trans hreturned
      · rw [hloop] at hreturned
        constructor
        · intro h
          constructor
          · intro _ other hother hends
            rw [honly other hother] at hends
            exact not_holds_of_endsBehind hends subgroup hholds
          · intro policy hnames
            refine ⟨henabled, controller, subgroup, hdecides, hholds, ?_⟩
            have hpolicy := (h.policy content policy rfl hnames).symm.trans hreturned
            exact (policyOf_eq_iff hdeclared subgroup policy).mp (Except.ok.inj hpolicy).symm
        · intro h
          refine ⟨?_, _, hreturned, policyOf_returned hdeclared subgroup⟩
          rintro _ policy ⟨⟩ hnames
          obtain ⟨-, other, subgroup', hother, hholds', hspells⟩ := h.spelled policy hnames
          rw [honly other hother] at hholds'
          rw [← hholds.unique hholds'] at hspells
          rw [hreturned]
          exact congrArg Except.ok ((policyOf_eq_iff hdeclared subgroup policy).mpr hspells)
  · have hreturned := GetSchedPolicy_of_not_enabled henabled (some content)
    constructor
    · intro h
      refine ⟨fun h => absurd h henabled, fun policy hnames => ?_⟩
      cases (h.policy content policy rfl hnames).symm.trans hreturned
    · intro h
      refine ⟨?_, _, hreturned, Or.inl rfl⟩
      rintro _ policy ⟨⟩ hnames
      exact absurd (h.spelled policy hnames).1 henabled

/-- A reply that fails gives no policy. -/
theorem readsBack_none (kernel : Kernel) (action : CgroupAction) :
    action.ReadsBack kernel none := by
  refine ⟨fun _ _ h => absurd h (Option.some_ne_none _).symm, _, ?_, Or.inl rfl⟩
  by_cases henabled : action.Enabled kernel
  · rw [GetSchedPolicy_of_enabled henabled]
    have hloop : ∀ controllers, firstTaskGroup none controllers = .ok none := by
      intro controllers
      induction controllers with
      | nil => rfl
      | cons controller controllers ih => exact ih
    rw [hloop]
    rfl
  · exact GetSchedPolicy_of_not_enabled henabled none

end

/-- Whatever policies have been declared and whatever controllers are loaded, a policy is read back
from every content that names it, and no content makes the search run off its end, if and only if
the content is in order. -/
theorem policies_readBack_iff (kernel : Kernel) (declarations : List Declaration) (enable : Bool)
    (cgroupMap : CgroupMap) (reply : Option (List UInt8)) :
    (CgroupAction.declare declarations enable cgroupMap).ReadsBack kernel reply ↔
      ∀ content, reply = some content →
        (CgroupAction.declare declarations enable cgroupMap).InOrder kernel content := by
  cases reply with
  | none => exact iff_of_true (readsBack_none _ _) fun _ h => by cases h
  | some content =>
      refine (readsBack_iff (declared_run declarations) content).trans ?_
      constructor
      · rintro h _ ⟨⟩
        exact h
      · exact fun h => h content rfl

/-! ## Plain files -/

/-- A line of one controller, with no colon in its path. -/
def CgroupLine.Plain (line : CgroupLine) : Prop :=
  line.WellFormed ∧ (∃ name, line.controllers = [name]) ∧ ':'.toUInt8 ∉ line.path

/-- The tag is the name between two colons. -/
def CgroupController.PlainTag (controller : CgroupController) : Prop :=
  controller.cgTag = ':'.toUInt8 :: (bytes controller.name_ ++ [':'.toUInt8]) ∧
    ':'.toUInt8 ∉ bytes controller.name_ ∧ '\n'.toUInt8 ∉ bytes controller.name_

theorem colon_notMem_id (id : Nat) : ':'.toUInt8 ∉ bytes (toString id) := by
  have hascii : ∀ c ∈ (toString id).toList, 48 ≤ c.toNat ∧ c.toNat ≤ 57 := by
    intro c hc
    rw [Nat.toString_eq_ofList_toDigits, String.toList_ofList] at hc
    exact CLibrary.toNat_of_mem_toDigits hc
  rw [bytes, Utf8.encode_ascii fun c hc => (hascii c hc).2.trans_lt (by decide), List.mem_map]
  rintro ⟨c, hc, hcolon⟩
  obtain ⟨hlow, hhigh⟩ := hascii c hc
  have hnumber := congrArg UInt8.toNat hcolon
  rw [UInt8.toNat_ofNat_of_lt' (hhigh.trans_lt (by decide))] at hnumber
  have hcolon' : (':'.toUInt8).toNat = 58 := by decide
  omega

/-- The text of a line, from its first colon on. -/
theorem text_of_plain {line : CgroupLine} {name : List UInt8} (h : line.controllers = [name])
    (rest : List UInt8) :
    line.text ++ bytes "\n" ++ rest = bytes (toString line.id) ++ ':'.toUInt8 :: (name ++
      ':'.toUInt8 :: (('/'.toUInt8 :: line.path) ++ '\n'.toUInt8 :: rest)) := by
  have hcolon : bytes ":" = [':'.toUInt8] := by decide
  have hslash : bytes ":/" = [':'.toUInt8, '/'.toUInt8] := by decide
  have hend : bytes "\n" = ['\n'.toUInt8] := by decide
  rw [CgroupLine.text, h, hcolon, hslash, hend]
  simp

/-- In a file of plain lines a tag stands only where the line of its controller has it. -/
theorem line_of_tag {lines : List CgroupLine} (hplain : ∀ line ∈ lines, line.Plain)
    {name front back : List UInt8} (hcolon : ':'.toUInt8 ∉ name) (hend : '\n'.toUInt8 ∉ name)
    (h : front ++ ':'.toUInt8 :: (name ++ ':'.toUInt8 :: back) =
      lines.flatMap fun line => line.text ++ bytes "\n") :
    ∃ line ∈ lines, line.controllers = [name] ∧ ∃ rest,
      back = ('/'.toUInt8 :: line.path) ++ '\n'.toUInt8 :: rest := by
  induction lines generalizing front with
  | nil => simp at h
  | cons line lines ih =>
      obtain ⟨hwellFormed, ⟨other, hother⟩, hpath⟩ := hplain line List.mem_cons_self
      have hothers := hwellFormed.1 other (by simp [hother])
      rw [List.flatMap_cons, text_of_plain hother] at h
      have hslash : ':'.toUInt8 ∉ '/'.toUInt8 :: line.path := by
        rw [List.mem_cons, not_or]
        exact ⟨by decide, hpath⟩
      have hne : ':'.toUInt8 ≠ '\n'.toUInt8 := by decide
      obtain ⟨rfl, hfields⟩ | ⟨front, rfl, hfields⟩ :=
        append_cons_of_eq (colon_notMem_id line.id) h
      · -- The tag begins behind the id.
        obtain ⟨rfl, hback⟩ | ⟨behind, rfl, -⟩ := append_cons_of_eq hothers.1 hfields
        · exact ⟨line, List.mem_cons_self, hother, _, hback⟩
        · simp at hcolon
      · obtain ⟨rfl, htail⟩ | ⟨front, rfl, htail⟩ := append_cons_of_eq hothers.1 hfields
        · -- It would begin behind the name and go on to the next line.
          obtain ⟨behind, rfl, -⟩ := append_cons_of_ne hslash hne htail
          simp at hend
        · obtain ⟨front, rfl, hlines⟩ := append_cons_of_ne hslash hne htail
          obtain ⟨found, hmem, hfound⟩ :=
            ih (fun line hline => hplain line (List.mem_cons_of_mem _ hline)) hlines
          exact ⟨found, List.mem_cons_of_mem _ hmem, hfound⟩

/-- Behind the first tag of a plain file stands the path of the line of its controller. -/
theorem holds_of_plain {lines : List CgroupLine} {content : List UInt8}
    (hfile : IsCgroupFile lines content) (hplain : ∀ line ∈ lines, line.Plain)
    {controller : CgroupController} (htag : controller.PlainTag)
    (hstands : controller.cgTag <:+: content) :
    ∃ line ∈ lines, line.controllers = [bytes controller.name_] ∧
      Holds controller.cgTag content line.path := by
  have hfound : find controller.cgTag content ≠ none :=
    fun hnone => (find_eq_none_iff _ _).mp hnone hstands
  obtain ⟨i, hi⟩ := Option.ne_none_iff_exists'.mp hfound
  obtain ⟨front, -, hfirst⟩ := (find_eq_some_iff _ _ i).mp hi
  obtain ⟨back, hback⟩ := hfirst.1
  obtain ⟨htagText, hcolon, hend⟩ := htag
  have htext : ∀ back, front ++ controller.cgTag ++ back =
      front ++ ':'.toUInt8 :: (bytes controller.name_ ++ ':'.toUInt8 :: back) := by
    intro back
    rw [htagText]
    simp
  have hnewline : bytes "\n" = ['\n'.toUInt8] := by decide
  -- The end that the last line may lack is put behind the content.
  obtain ⟨lacking, hlacking, hwhole⟩ : ∃ lacking, (lacking = [] ∨ lacking = ['\n'.toUInt8]) ∧
      content ++ lacking = lines.flatMap fun line => line.text ++ bytes "\n" := by
    obtain hwhole | hwhole := hfile.2
    · exact ⟨[], Or.inl rfl, by rw [List.append_nil, hwhole]⟩
    · exact ⟨_, Or.inr hnewline, hwhole⟩
  rw [← hback, List.append_assoc, htext] at hwhole
  obtain ⟨line, hmem, hcontrollers, rest, hrest⟩ := line_of_tag hplain hcolon hend hwhole
  refine ⟨line, hmem, hcontrollers, front, '/'.toUInt8, ?_⟩
  obtain rfl | rfl := hlacking
  · rw [List.append_nil] at hrest
    refine ⟨'\n'.toUInt8 :: rest, hfirst, ?_, (hplain line hmem).1.2, Or.inr ⟨rest, rfl⟩⟩
    rw [← hback, hrest]
    rfl
  · rcases List.eq_nil_or_concat rest with rfl | ⟨rest, last, rfl⟩
    · have hpath := List.append_cancel_right hrest
      refine ⟨[], hfirst, ?_, (hplain line hmem).1.2, Or.inl rfl⟩
      rw [← hback, hpath, List.append_nil]
    · rw [List.concat_eq_append, ← List.cons_append, ← List.append_assoc] at hrest
      have hpath := (List.append_inj' hrest rfl).1
      refine ⟨'\n'.toUInt8 :: rest, hfirst, ?_, (hplain line hmem).1.2, Or.inr ⟨rest, rfl⟩⟩
      rw [← hback, hpath]
      rfl

/-- The tag of a controller with a line stands in the content. -/
theorem stands_of_plain {lines : List CgroupLine} {content : List UInt8}
    (hfile : IsCgroupFile lines content) {controller : CgroupController}
    (htag : controller.PlainTag) {line : CgroupLine} (hline : line ∈ lines)
    (hcontrollers : line.controllers = [bytes controller.name_]) :
    controller.cgTag <:+: content := by
  obtain ⟨before, after, rfl⟩ := List.append_of_mem hline
  generalize hrest : after.flatMap (fun line => line.text ++ bytes "\n") = rest
  have hwhole : (before ++ line :: after).flatMap (fun line => line.text ++ bytes "\n") =
      before.flatMap (fun line => line.text ++ bytes "\n") ++ bytes (toString line.id) ++
        controller.cgTag ++ (('/'.toUInt8 :: line.path) ++ '\n'.toUInt8 :: rest) := by
    rw [List.flatMap_append, List.flatMap_cons, hrest, text_of_plain hcontrollers, htag.1]
    simp
  rw [IsCgroupFile, hwhole] at hfile
  obtain hcontent | hcontent := hfile.2
  · rw [hcontent]
    exact ⟨_, _, rfl⟩
  · have hbehind : ('/'.toUInt8 :: line.path) ++ '\n'.toUInt8 :: rest ≠ [] := by simp
    rw [← List.dropLast_append_getLast hbehind, ← List.append_assoc] at hcontent
    rw [(List.append_inj' hcontent rfl).1]
    exact ⟨_, _, rfl⟩

theorem exists_decides {controllers : List CgroupController} {content : List UInt8}
    {controller : CgroupController} (hmem : controller ∈ controllers)
    (hstands : controller.cgTag <:+: content) : ∃ found, Decides controllers content found := by
  induction controllers with
  | nil => cases hmem
  | cons head controllers ih =>
      simp only [decides_cons_iff]
      split_ifs with htag
      · exact ⟨head, rfl⟩
      · rcases List.mem_cons.mp hmem with rfl | hmem
        · exact absurd hstands htag
        · exact ih hmem

/-- A policy whose full name has no dash is spelled by the subgroup it is configured with, unless
that is empty. -/
theorem spells_of_configured {fullNames : AssocMap Nat String} {policy : Nat} {fullName : String}
    {subgroup : List UInt8} (hlookup : fullNames.lookup policy = some fullName)
    (hconfigured : ConfiguredAs policy fullName subgroup)
    (hdash : '-'.toUInt8 ∉ bytes fullName) (hempty : subgroup = [] → policy = SP_DEFAULT) :
    Spells fullNames subgroup policy := by
  by_cases hsubgroup : subgroup = []
  · exact Or.inl ⟨hsubgroup, hempty hsubgroup⟩
  · refine Or.inr ⟨hsubgroup, ?_⟩
    obtain ⟨name, hname, rfl⟩ | ⟨-, hnone⟩ := hconfigured
    · have hback : replaceDash (name.map fun c => if c = '_'.toUInt8 then '-'.toUInt8 else c) =
          name := by
        rw [replaceDash, List.map_map]
        refine (List.map_congr_left fun c hc => ?_).trans (List.map_id name)
        have hnot : c ≠ '-'.toUInt8 := by
          rintro rfl
          exact hdash (hname ▸ List.mem_append_right _ hc)
        by_cases hunderscore : c = '_'.toUInt8 <;> simp [hunderscore, hnot]
      rw [hlookup, hback, ← hname]
      rfl
    · exact absurd hnone hsubgroup

/-- In a file of plain lines that name one subgroup for the controllers, the policy it spells is
read back. -/
theorem readBack_of_plain {kernel : Kernel} {action : CgroupAction}
    (hdeclared : Declared action.fullNames_) (henabled : action.Enabled kernel)
    {lines : List CgroupLine} {content : List UInt8} (hfile : IsCgroupFile lines content)
    (hplain : ∀ line ∈ lines, line.Plain)
    (htags : ∀ controller ∈ action.cgroupMap.controllers, controller.PlainTag)
    {line : CgroupLine} {controller : CgroupController} (hline : line ∈ lines)
    (hcontroller : controller ∈ action.cgroupMap.controllers)
    (hlisted : line.controllers = [bytes controller.name_])
    (hagree : ∀ other ∈ lines, ∀ controller' ∈ action.cgroupMap.controllers,
      other.controllers = [bytes controller'.name_] → other.path = line.path)
    {policy : Nat} (hspells : Spells action.fullNames_ line.path policy) :
    (action.GetSchedPolicy kernel (some content)).2 = .ok (0, policy) := by
  have hstands := stands_of_plain hfile (htags controller hcontroller) hline hlisted
  rw [GetSchedPolicy_of_enabled henabled]
  obtain ⟨-, hnone⟩ | ⟨found, hdecides, -, hread⟩ :=
    firstTaskGroup_spec action.cgroupMap.controllers content
  · obtain ⟨found, hdecides⟩ := exists_decides hcontroller hstands
    exact absurd hdecides (hnone found)
  · have hfound : found ∈ action.cgroupMap.controllers := by
      obtain ⟨-, before, after, hsame, -⟩ := hdecides
      rw [hsame]
      exact List.mem_append_right _ List.mem_cons_self
    obtain ⟨other, hother, hcontrollers, hholds⟩ :=
      holds_of_plain hfile hplain (htags found hfound) hdecides.1
    rw [hagree other hother found hfound hcontrollers] at hholds
    obtain ⟨hends, -⟩ | ⟨subgroup, hholds', hloop⟩ := hread
    · exact absurd hholds (not_holds_of_endsBehind hends _)
    · rw [hloop, ← hholds.unique hholds']
      exact congrArg Except.ok ((policyOf_eq_iff hdeclared line.path policy).mpr hspells)

/-! ## A truncated content and a controller that is mounted with another -/

def existing : Kernel where
  access := fun _ => true
  write := fun _ text => ⟨text.length, 0⟩

def oneController : CgroupMap where
  controllers_ := AList.insert "cpu" ⟨"cpu", "/dev/cpuctl", ∅, ∅⟩ ∅
  enabled := none

def coMounted : CgroupLine where
  id := 4
  controllers := [bytes "cpu", bytes "cpuacct"]
  path := bytes "background"

/-- A content that ends behind the tag makes the search run off its end, and the line of a controller
that is mounted with another is not found. -/
theorem truncated_and_coMounted_fail :
    ¬ (CgroupAction.declare [] true oneController).ReadsBack existing (some (bytes "3:cpu:")) ∧
      ¬ (CgroupAction.declare [] true oneController).ReadsBack existing
        (some (bytes "4:cpu,cpuacct:/background\n")) := by
  constructor
  · intro h
    obtain ⟨result, hresult, -⟩ := h.returned
    have hthrown : ((CgroupAction.declare [] true oneController).GetSchedPolicy existing
        (some (bytes "3:cpu:"))).2 = .error .out_of_range := by decide
    cases hresult.symm.trans hthrown
  · intro h
    have hnames : Names (CgroupAction.declare [] true oneController)
        (bytes "4:cpu,cpuacct:/background\n") SP_BACKGROUND := by
      refine ⟨[coMounted], coMounted, ⟨"cpu", "/dev/cpuctl", ∅, ∅⟩, "sp_background", ?_,
        List.mem_cons_self, List.mem_cons_self, List.mem_cons_self, ?_, by decide,
        Or.inl ⟨bytes "background", by decide, by decide⟩⟩
      · refine ⟨fun line hline => ?_, Or.inl (by decide)⟩
        rw [List.mem_singleton.mp hline]
        exact ⟨by decide, by decide⟩
      · exact fun other hother _ => List.mem_singleton.mp hother
    have hpolicy := h.policy _ _ rfl hnames
    have hlost : ((CgroupAction.declare [] true oneController).GetSchedPolicy existing
        (some (bytes "4:cpu,cpuacct:/background\n"))).2 = .ok (-1, SP_UPPER_LIMIT) := by decide
    cases hpolicy.symm.trans hlost

end ResSched.CgroupSetting
