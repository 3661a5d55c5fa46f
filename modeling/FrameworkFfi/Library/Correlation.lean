import Mathlib.Data.List.Basic
import Mathlib.Data.List.Forall2
import Mathlib.Data.List.Perm.Basic
import Mathlib.Tactic.Common

/-!
# Correlation by elimination

Groups of cards arrive one after the other and there is a list of targets. A
group that consists of one card takes the target when exactly one is left; the
cards of every other group stay unplaced. The net effect of all groups needs no
run: when there is one target, the first group of one card wins it, and when
there are none or several, nothing is placed.
-/

namespace Correlation

variable {σ κ γ : Type}

/-- The targets that are left, the pair that was made and the unplaced cards in
the order of their arrival. -/
structure State (σ κ : Type) where
  targets : List σ
  placed : Option (σ × κ)
  unplaced : List κ

def step (state : State σ κ) (group : List κ) : State σ κ :=
  match group, state.targets with
  | [card], [target] => { state with targets := [], placed := some (target, card) }
  | _, _ => { state with unplaced := state.unplaced ++ group }

def run (targets : List σ) (groups : List (List κ)) : State σ κ :=
  groups.foldl step ⟨targets, none, []⟩

def only : List κ → Option κ
  | [card] => some card
  | _ => none

/-- The card of the first group of one card. -/
def winner (groups : List (List κ)) : Option κ := groups.findSome? only

/-- The cards of all other groups. -/
def losers : List (List κ) → List κ
  | [] => []
  | group :: groups => if (only group).isSome then groups.flatten else group ++ losers groups

theorem only_eq_some_iff {group : List κ} {card : κ} :
    only group = some card ↔ group = [card] := by
  rcases group with _ | ⟨first, _ | ⟨second, rest⟩⟩ <;> simp [only]

theorem only_isSome_iff {group : List κ} : (only group).isSome ↔ group.length = 1 := by
  rcases group with _ | ⟨first, _ | ⟨second, rest⟩⟩ <;> simp [only]

theorem only_map (f : κ → γ) (group : List κ) : only (group.map f) = (only group).map f := by
  rcases group with _ | ⟨first, _ | ⟨second, rest⟩⟩ <;> simp [only]

theorem step_of_targets_ne {state : State σ κ} (h : state.targets.length ≠ 1)
    (group : List κ) :
    step state group = { state with unplaced := state.unplaced ++ group } := by
  unfold step
  split
  next card target _ htargets =>
    rw [htargets] at h
    exact absurd rfl h
  next => rfl

theorem step_of_only {state : State σ κ} {target : σ} {group : List κ} {card : κ}
    (htargets : state.targets = [target]) (hgroup : only group = some card) :
    step state group = { state with targets := [], placed := some (target, card) } := by
  rw [only_eq_some_iff] at hgroup
  simp only [step, hgroup, htargets]

theorem step_of_only_eq_none {state : State σ κ} {group : List κ} (hgroup : only group = none) :
    step state group = { state with unplaced := state.unplaced ++ group } := by
  unfold step
  split
  next card target => simp [only] at hgroup
  next => rfl

/-- While there is not exactly one target, every card stays unplaced. -/
theorem foldl_step_of_targets_ne (groups : List (List κ)) (state : State σ κ)
    (h : state.targets.length ≠ 1) :
    groups.foldl step state = { state with unplaced := state.unplaced ++ groups.flatten } := by
  induction groups generalizing state with
  | nil => simp
  | cons group groups ih =>
      have hrest := ih { state with unplaced := state.unplaced ++ group } h
      rw [List.foldl_cons, step_of_targets_ne h, hrest]
      simp only [List.append_assoc, List.flatten_cons]

/-- With one target, the first group of one card takes it. -/
theorem foldl_step_of_targets_eq (groups : List (List κ)) (state : State σ κ) {target : σ}
    (h : state.targets = [target]) (hplaced : state.placed = none) :
    groups.foldl step state =
      ⟨if (winner groups).isSome then [] else [target], (winner groups).map (target, ·),
        state.unplaced ++ losers groups⟩ := by
  induction groups generalizing state with
  | nil =>
      obtain ⟨targets, placed, unplaced⟩ := state
      cases h
      cases hplaced
      simp [winner, losers]
  | cons group groups ih =>
      cases hgroup : only group with
      | some card =>
          have hwinner : winner (group :: groups) = some card := by
            rw [winner, List.findSome?_cons, hgroup]
          rw [List.foldl_cons, step_of_only h hgroup,
            foldl_step_of_targets_ne groups _ (by simp), hwinner]
          simp [losers, hgroup]
      | none =>
          have hwinner : winner (group :: groups) = winner groups := by
            rw [winner, List.findSome?_cons, hgroup, winner]
          have hlosers : losers (group :: groups) = group ++ losers groups := by
            rw [losers, hgroup, Option.isSome_none, if_neg Bool.false_ne_true]
          have hrest := ih { state with unplaced := state.unplaced ++ group } h hplaced
          rw [List.foldl_cons, step_of_only_eq_none hgroup, hrest, hwinner, hlosers,
            List.append_assoc]

/-! ### The net effect -/

/-- The pair a run makes. -/
def placement (targets : List σ) (groups : List (List κ)) : Option (σ × κ) :=
  match only targets with
  | some target => (winner groups).map (target, ·)
  | none => none

/-- The cards a run leaves unplaced. -/
def leftover (targets : List σ) (groups : List (List κ)) : List κ :=
  if (only targets).isSome then losers groups else groups.flatten

theorem targets_length_ne_of_only_eq_none {targets : List σ} (h : only targets = none) :
    targets.length ≠ 1 := by
  rcases targets with _ | ⟨first, _ | ⟨second, rest⟩⟩
  · simp
  · simp [only] at h
  · simp

theorem placed_run (targets : List σ) (groups : List (List κ)) :
    (run targets groups).placed = placement targets groups := by
  cases h : only targets with
  | some target =>
      rw [run, foldl_step_of_targets_eq groups _ (only_eq_some_iff.mp h) rfl, placement, h]
  | none =>
      rw [run, foldl_step_of_targets_ne groups _ (targets_length_ne_of_only_eq_none h), placement,
        h]

theorem unplaced_run (targets : List σ) (groups : List (List κ)) :
    (run targets groups).unplaced = leftover targets groups := by
  cases h : only targets with
  | some target =>
      rw [run, foldl_step_of_targets_eq groups _ (only_eq_some_iff.mp h) rfl, leftover, h,
        Option.isSome_some, if_pos rfl, List.nil_append]
  | none =>
      rw [run, foldl_step_of_targets_ne groups _ (targets_length_ne_of_only_eq_none h), leftover,
        h, Option.isSome_none, if_neg Bool.false_ne_true, List.nil_append]

theorem targets_eq_of_placement {targets : List σ} {groups : List (List κ)} {target : σ}
    {card : κ} (h : placement targets groups = some (target, card)) :
    targets = [target] ∧ winner groups = some card := by
  unfold placement at h
  cases htargets : only targets with
  | none => simp [htargets] at h
  | some target' =>
      rw [htargets] at h
      obtain ⟨card', hwinner, heq⟩ := Option.map_eq_some_iff.mp h
      cases heq
      exact ⟨only_eq_some_iff.mp htargets, hwinner⟩

theorem placement_eq_some_iff {targets : List σ} {groups : List (List κ)} {target : σ}
    {card : κ} :
    placement targets groups = some (target, card) ↔
      targets = [target] ∧ winner groups = some card := by
  constructor
  · exact targets_eq_of_placement
  · rintro ⟨rfl, hwinner⟩
    simp [placement, only, hwinner]

/-- A run takes its one target when it makes a pair, and none otherwise. -/
theorem targets_run (targets : List σ) (groups : List (List κ)) :
    (run targets groups).targets =
      if (placement targets groups).isSome then [] else targets := by
  cases h : only targets with
  | some target =>
      have htargets := only_eq_some_iff.mp h
      rw [run, foldl_step_of_targets_eq groups _ htargets rfl, placement, h, Option.isSome_map,
        htargets]
  | none =>
      rw [run, foldl_step_of_targets_ne groups _ (targets_length_ne_of_only_eq_none h), placement,
        h, Option.isSome_none, if_neg Bool.false_ne_true]

/-- Several targets stay as many, so a group finds as many as itself exactly
when there were as many at the start. -/
theorem eq_length_targets_run_iff {count : ℕ} (hcount : 2 ≤ count) (targets : List σ)
    (groups : List (List κ)) :
    count = (run targets groups).targets.length ↔ count = targets.length := by
  rw [targets_run]
  cases hplaced : placement targets groups with
  | none => rw [Option.isSome_none, if_neg Bool.false_ne_true]
  | some pair =>
      have hlength : targets.length = 1 := by
        rw [(targets_eq_of_placement (hplaced.trans rfl : _ = some (pair.1, pair.2))).1]
        rfl
      rw [Option.isSome_some, if_pos rfl, List.length_nil, hlength]
      omega

/-! ### Groups under a tag -/

section Tagged

variable {τ : Type}

/-- The tag of the group that wins. -/
def winningTag (groups : τ → List κ) (tags : List τ) : Option τ :=
  tags.find? fun tag => (groups tag).length = 1

/-- A card wins when its group is the first of one card. -/
theorem winner_map_eq_some_iff (groups : τ → List κ) (tags : List τ) (card : κ) :
    winner (tags.map groups) = some card ↔
      ∃ before tag after, tags = before ++ tag :: after ∧
        (∀ earlier ∈ before, (groups earlier).length ≠ 1) ∧ groups tag = [card] := by
  have hnone : ∀ group : List κ, only group = none ↔ group.length ≠ 1 := by
    intro group
    rw [Ne, ← only_isSome_iff, Bool.not_eq_true, Option.isSome_eq_false_iff,
      Option.isNone_iff_eq_none]
  rw [winner, List.findSome?_map, List.findSome?_eq_some_iff]
  constructor
  · rintro ⟨before, tag, after, htags, hcard, hbefore⟩
    exact ⟨before, tag, after, htags, fun earlier h => (hnone _).mp (hbefore earlier h),
      only_eq_some_iff.mp hcard⟩
  · rintro ⟨before, tag, after, htags, hbefore, hcard⟩
    exact ⟨before, tag, after, htags, only_eq_some_iff.mpr hcard,
      fun earlier h => (hnone _).mpr (hbefore earlier h)⟩

/-- The losers are the groups of all tags but the winning one. -/
theorem losers_map_eq_flatMap [DecidableEq τ] (groups : τ → List κ) {tags : List τ}
    (h : tags.Nodup) :
    losers (tags.map groups) =
      tags.flatMap fun tag => if winningTag groups tags = some tag then [] else groups tag := by
  induction tags with
  | nil => rfl
  | cons tag tags ih =>
      rw [List.nodup_cons] at h
      rw [List.map_cons, losers, List.flatMap_cons]
      cases hgroup : only (groups tag) with
      | some card =>
          have htag : winningTag groups (tag :: tags) = some tag := by
            simp [winningTag, only_isSome_iff.mp (Option.isSome_of_mem hgroup)]
          rw [htag, Option.isSome_some, if_pos rfl, if_pos rfl, List.nil_append,
            List.flatten_eq_flatMap, List.flatMap_map]
          refine List.flatMap_congr fun other hother => ?_
          have hne : some tag ≠ some other := by
            rintro heq
            cases heq
            exact h.1 hother
          rw [if_neg hne]
          rfl
      | none =>
          have htag : winningTag groups (tag :: tags) = winningTag groups tags := by
            have hlength : (groups tag).length ≠ 1 := by
              rw [Ne, ← only_isSome_iff, hgroup]
              simp
            simp [winningTag, hlength]
          have hne : winningTag groups tags ≠ some tag := by
            intro heq
            exact h.1 (List.mem_of_find?_eq_some heq)
          rw [htag, if_neg hne, Option.isSome_none, if_neg Bool.false_ne_true, ih h.2]

end Tagged

/-! ### No card is lost -/

theorem winner_append_losers_perm (groups : List (List κ)) :
    ((winner groups).toList ++ losers groups).Perm groups.flatten := by
  induction groups with
  | nil => simp [winner, losers]
  | cons group groups ih =>
      cases hgroup : only group with
      | some card =>
          rw [only_eq_some_iff] at hgroup
          subst hgroup
          simp [winner, losers, List.findSome?_cons, only]
      | none =>
          have hwinner : winner (group :: groups) = winner groups := by
            rw [winner, List.findSome?_cons, hgroup, winner]
          have hlosers : losers (group :: groups) = group ++ losers groups := by
            rw [losers, hgroup, Option.isSome_none, if_neg Bool.false_ne_true]
          rw [hwinner, hlosers, List.flatten_cons]
          refine List.Perm.trans ?_ (ih.append_left group)
          rw [← List.append_assoc, ← List.append_assoc]
          exact List.perm_append_comm.append_right _

/-- The card of the pair and the unplaced cards are all the cards. -/
theorem placement_append_leftover_perm (targets : List σ) (groups : List (List κ)) :
    (((placement targets groups).map Prod.snd).toList ++ leftover targets groups).Perm
      groups.flatten := by
  cases h : only targets with
  | some target =>
      have hcard : (placement targets groups).map Prod.snd = winner groups := by
        rw [placement, h]
        cases winner groups <;> rfl
      rw [hcard, leftover, h, Option.isSome_some, if_pos rfl]
      exact winner_append_losers_perm groups
  | none =>
      rw [placement, leftover, h]
      simp

theorem losers_sublist (groups : List (List κ)) : (losers groups).Sublist groups.flatten := by
  induction groups with
  | nil => exact List.Sublist.refl []
  | cons group groups ih =>
      rw [losers, List.flatten_cons]
      split_ifs
      · exact List.sublist_append_right group groups.flatten
      · exact ih.append_left group

theorem leftover_sublist (targets : List σ) (groups : List (List κ)) :
    (leftover targets groups).Sublist groups.flatten := by
  unfold leftover
  split_ifs
  · exact losers_sublist groups
  · exact List.Sublist.refl _

theorem mem_placement_or_leftover {targets : List σ} {groups : List (List κ)} {card : κ} :
    card ∈ groups.flatten ↔
      (∃ target, placement targets groups = some (target, card)) ∨
        card ∈ leftover targets groups := by
  rw [← (placement_append_leftover_perm targets groups).mem_iff, List.mem_append,
    Option.mem_toList, Option.map_eq_some_iff]
  constructor
  · rintro (⟨⟨target, card⟩, hplaced, rfl⟩ | hleft)
    · exact .inl ⟨target, hplaced⟩
    · exact .inr hleft
  · rintro (⟨target, hplaced⟩ | hleft)
    · exact .inl ⟨(target, card), hplaced, rfl⟩
    · exact .inr hleft

theorem notMem_leftover_of_placement {targets : List σ} {groups : List (List κ)} {target : σ}
    {card : κ} (hnodup : groups.flatten.Nodup)
    (h : placement targets groups = some (target, card)) : card ∉ leftover targets groups := by
  have hall := (placement_append_leftover_perm targets groups).nodup_iff.mpr hnodup
  rw [h] at hall
  exact (List.nodup_cons.mp hall).1

theorem length_placement_add_leftover (targets : List σ) (groups : List (List κ)) :
    (placement targets groups).toList.length + (leftover targets groups).length =
      groups.flatten.length := by
  rw [← (placement_append_leftover_perm targets groups).length_eq, List.length_append]
  cases placement targets groups <;> rfl

/-! ### Renaming the cards -/

theorem winner_map (f : κ → γ) (groups : List (List κ)) :
    winner (groups.map (List.map f)) = (winner groups).map f := by
  induction groups with
  | nil => rfl
  | cons group groups ih =>
      rw [List.map_cons, winner, List.findSome?_cons, winner, List.findSome?_cons, only_map]
      cases only group with
      | some card => rfl
      | none => exact ih

theorem losers_map (f : κ → γ) (groups : List (List κ)) :
    losers (groups.map (List.map f)) = (losers groups).map f := by
  induction groups with
  | nil => rfl
  | cons group groups ih =>
      rw [List.map_cons, losers, losers, only_map, Option.isSome_map, ih]
      split_ifs
      · rw [List.map_flatten]
      · rw [List.map_append]

theorem placement_map (f : κ → γ) (targets : List σ) (groups : List (List κ)) :
    placement targets (groups.map (List.map f)) =
      (placement targets groups).map fun p => (p.1, f p.2) := by
  unfold placement
  rw [winner_map]
  cases only targets with
  | some target => cases winner groups <;> rfl
  | none => rfl

theorem leftover_map (f : κ → γ) (targets : List σ) (groups : List (List κ)) :
    leftover targets (groups.map (List.map f)) = (leftover targets groups).map f := by
  unfold leftover
  rw [losers_map]
  split_ifs
  · rfl
  · rw [List.map_flatten]

/-! ### Reordered groups -/

section Reordered

variable {groups groups' : List (List κ)}

theorem only_perm {group group' : List κ} (h : group.Perm group') : only group' = only group := by
  cases hgroup : only group with
  | some card =>
      obtain rfl := only_eq_some_iff.mp hgroup
      exact only_eq_some_iff.mpr (List.singleton_perm.mp h).symm
  | none =>
      have hlength : ¬ (only group').isSome := by
        rw [only_isSome_iff, ← h.length_eq, ← only_isSome_iff, hgroup]
        exact Bool.false_ne_true
      exact Option.not_isSome_iff_eq_none.mp hlength

theorem winner_reordered (h : List.Forall₂ List.Perm groups groups') :
    winner groups' = winner groups := by
  induction h with
  | nil => rfl
  | @cons group group' _ _ hgroup _ ih =>
      rw [winner, winner, List.findSome?_cons, List.findSome?_cons, only_perm hgroup]
      cases only group with
      | some card => rfl
      | none => exact ih

theorem losers_reordered (h : List.Forall₂ List.Perm groups groups') :
    (losers groups).Perm (losers groups') := by
  induction h with
  | nil => exact .nil
  | cons hgroup hgroups ih =>
      rw [losers, losers, only_perm hgroup]
      split_ifs
      · exact List.Perm.flatten_congr hgroups
      · exact hgroup.append ih

/-- Reordering the groups in themselves makes the same pair. -/
theorem placement_reordered (targets : List σ) (h : List.Forall₂ List.Perm groups groups') :
    placement targets groups' = placement targets groups := by
  rw [placement, placement, winner_reordered h]

/-- Reordering the groups in themselves reorders the cards that are left. -/
theorem leftover_reordered (targets : List σ) (h : List.Forall₂ List.Perm groups groups') :
    (leftover targets groups).Perm (leftover targets groups') := by
  unfold leftover
  split_ifs
  · exact losers_reordered h
  · exact List.Perm.flatten_congr h

end Reordered

end Correlation
