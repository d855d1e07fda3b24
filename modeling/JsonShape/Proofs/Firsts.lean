import Mathlib.Data.List.Forall2
import Mathlib.Data.List.Induction
import Mathlib.Data.List.Perm.Basic

/-!
# Taking equal elements once

Schemas and listed values are collected in the same way: an element is added unless an equal one is
there. `firstsBy` is what is collected, for any equality. Where that is an equivalence, the elements
that are collected do not depend on the order in which they come, up to that equality.

* **What is collected** (`exists_mem_firstsBy`, `pairwise_firstsBy`) — something equal to every
  element, and no two equal elements.
* **Related lists** (`forall₂_firstsBy`) — from lists that are related element by element, and in
  which the same elements are equal, related elements are collected.
* **Another order** (`exists_perm_of_cover`) — collections each of which has an equal for every
  element of the other are the same up to order and equality.
-/

namespace JsonShape

variable {α β : Type} {eq : α → α → Bool} {as : List α}

/-- Add an element unless an equal one is there. -/
def addFirst (eq : α → α → Bool) (seen : List α) (a : α) : List α :=
  if seen.any (eq · a) then seen else seen ++ [a]

/-- The elements of a list that equal no earlier one. -/
def firstsBy (eq : α → α → Bool) (as : List α) : List α := as.foldl (addFirst eq) []

theorem addFirst_of_any {seen : List α} {a : α} (h : seen.any (eq · a) = true) :
    addFirst eq seen a = seen :=
  if_pos h

theorem addFirst_of_not_any {seen : List α} {a : α} (h : ¬ seen.any (eq · a) = true) :
    addFirst eq seen a = seen ++ [a] :=
  if_neg h

theorem firstsBy_append_singleton (as : List α) (a : α) :
    firstsBy eq (as ++ [a]) = addFirst eq (firstsBy eq as) a := by
  rw [firstsBy, List.foldl_append]
  rfl

theorem subset_addFirst (seen : List α) (a : α) : seen ⊆ addFirst eq seen a := by
  unfold addFirst
  split
  · exact List.Subset.refl _
  · exact List.subset_append_left ..

theorem mem_of_mem_firstsBy {a : α} (h : a ∈ firstsBy eq as) : a ∈ as := by
  induction as using List.reverseRecOn with
  | nil => cases h
  | append_singleton rest last ih =>
    rw [firstsBy_append_singleton] at h
    rw [List.mem_append]
    unfold addFirst at h
    split at h
    · exact .inl (ih h)
    · exact (List.mem_append.mp h).imp_left ih

/-- An element that is left out equals one that stays. -/
theorem exists_mem_firstsBy {a : α} (h : a ∈ as) :
    ∃ found ∈ firstsBy eq as, found = a ∨ eq found a = true := by
  induction as using List.reverseRecOn with
  | nil => cases h
  | append_singleton rest last ih =>
    rw [firstsBy_append_singleton]
    rcases List.mem_append.mp h with hrest | hlast
    · obtain ⟨found, hfound, heq⟩ := ih hrest
      exact ⟨found, subset_addFirst _ _ hfound, heq⟩
    · obtain rfl := List.mem_singleton.mp hlast
      by_cases hany : (firstsBy eq rest).any (eq · a) = true
      · obtain ⟨found, hfound, heq⟩ := List.any_eq_true.mp hany
        exact ⟨found, subset_addFirst _ _ hfound, .inr heq⟩
      · rw [addFirst_of_not_any hany]
        exact ⟨a, by simp, .inl rfl⟩

/-- No element that stays equals an earlier one. -/
theorem pairwise_firstsBy (as : List α) :
    (firstsBy eq as).Pairwise fun earlier later => eq earlier later = false := by
  induction as using List.reverseRecOn with
  | nil => exact .nil
  | append_singleton rest last ih =>
    rw [firstsBy_append_singleton]
    by_cases hany : (firstsBy eq rest).any (eq · last) = true
    · rwa [addFirst_of_any hany]
    · rw [addFirst_of_not_any hany]
      refine List.pairwise_append.mpr ⟨ih, List.pairwise_singleton _ _, ?_⟩
      intro earlier hearlier later hlater
      rw [List.mem_singleton.mp hlater]
      exact Bool.eq_false_iff.mpr fun heq => hany (List.any_eq_true.mpr ⟨earlier, hearlier, heq⟩)

/-- Nothing is left out of a list in which no element equals an earlier one. -/
theorem firstsBy_eq_self (h : as.Pairwise fun earlier later => eq earlier later = false) :
    firstsBy eq as = as := by
  induction as using List.reverseRecOn with
  | nil => rfl
  | append_singleton rest last ih =>
    obtain ⟨hrest, -, hlast⟩ := List.pairwise_append.mp h
    have hany : ¬ rest.any (eq · last) = true := by
      intro hany
      obtain ⟨found, hfound, heq⟩ := List.any_eq_true.mp hany
      rw [hlast found hfound last (by simp)] at heq
      cases heq
    rw [firstsBy_append_singleton, ih hrest, addFirst_of_not_any hany]

/-- The first element stays. -/
theorem mem_firstsBy_head (a : α) (as : List α) : a ∈ firstsBy eq (a :: as) := by
  induction as using List.reverseRecOn with
  | nil => exact List.mem_singleton_self a
  | append_singleton rest last ih =>
    rw [← List.cons_append, firstsBy_append_singleton]
    exact subset_addFirst _ _ ih

/-! ### Related lists -/

section Related

variable {R : α → β → Prop} {eq' : β → β → Bool} {bs : List β}

theorem any_eq_of_forall₂ {p : α → Bool} {q : β → Bool} (h : List.Forall₂ R as bs)
    (hpq : ∀ a b, R a b → p a = q b) : as.any p = bs.any q := by
  induction h with
  | nil => rfl
  | cons hhead _ ih => rw [List.any_cons, List.any_cons, hpq _ _ hhead, ih]

theorem forall₂_imp_of_mem {S : α → β → Prop} (h : List.Forall₂ R as bs)
    (imp : ∀ a ∈ as, ∀ b ∈ bs, R a b → S a b) : List.Forall₂ S as bs := by
  induction h with
  | nil => exact .nil
  | cons hhead _ ih =>
    refine .cons (imp _ List.mem_cons_self _ List.mem_cons_self hhead) (ih fun a ha b hb => ?_)
    exact imp a (List.mem_cons_of_mem _ ha) b (List.mem_cons_of_mem _ hb)

theorem exists_of_mem_forall₂ {a : α} (h : List.Forall₂ R as bs) (ha : a ∈ as) :
    ∃ b ∈ bs, R a b := by
  induction h with
  | nil => cases ha
  | cons hhead _ ih =>
    rcases List.mem_cons.mp ha with rfl | ha
    · exact ⟨_, List.mem_cons_self, hhead⟩
    · obtain ⟨b, hb, hab⟩ := ih ha
      exact ⟨b, List.mem_cons_of_mem _ hb, hab⟩

theorem exists_of_mem_forall₂_right {b : β} (h : List.Forall₂ R as bs) (hb : b ∈ bs) :
    ∃ a ∈ as, R a b :=
  have hflip : List.Forall₂ (fun b a => R a b) bs as := h.flip
  exists_of_mem_forall₂ hflip hb

/-- Related lists have related beginnings, and what is left is related too. -/
theorem forall₂_takeWhile_dropWhile {p : α → Bool} {q : β → Bool} (h : List.Forall₂ R as bs)
    (hpq : ∀ a b, R a b → p a = q b) :
    List.Forall₂ R (as.takeWhile p) (bs.takeWhile q)
      ∧ List.Forall₂ R (as.dropWhile p) (bs.dropWhile q) := by
  induction h with
  | nil => exact ⟨.nil, .nil⟩
  | @cons a b _ _ hhead htail ih =>
    simp only [List.takeWhile_cons, List.dropWhile_cons, hpq a b hhead]
    cases q b with
    | true => exact ⟨.cons hhead ih.1, ih.2⟩
    | false => exact ⟨.nil, .cons hhead htail⟩

/-- Of related lists, related elements stay, if equality respects the relation. -/
theorem forall₂_firstsBy (h : List.Forall₂ R as bs)
    (heq : ∀ a a' b b', R a b → R a' b' → eq a a' = eq' b b') :
    List.Forall₂ R (firstsBy eq as) (firstsBy eq' bs) := by
  refine List.rel_foldl (fun seen seen' hseen a b hab => ?_) .nil h
  -- both collections ask the same of their next elements
  have hany : seen.any (eq · a) = seen'.any (eq' · b) :=
    any_eq_of_forall₂ hseen fun c d hcd => heq c a d b hcd hab
  rw [addFirst, addFirst, hany]
  split
  · exact hseen
  · exact List.rel_append hseen (.cons hab .nil)

end Related

/-- Two lists of unrelated elements, where each element of one is related to one of the other, are
the same up to order and the relation. -/
theorem exists_perm_of_cover {R : α → α → Prop} {bs : List α}
    (symm : ∀ a ∈ as, ∀ b, R a b → R b a) (trans : ∀ {a b c}, R a b → R b c → R a c)
    (has : as.Pairwise fun a a' => ¬ R a a') (hbs : bs.Pairwise fun b b' => ¬ R b b')
    (cover : ∀ a ∈ as, ∃ b ∈ bs, R a b) (cover' : ∀ b ∈ bs, ∃ a ∈ as, R a b) :
    ∃ cs, cs.Perm bs ∧ List.Forall₂ R as cs := by
  induction as generalizing bs with
  | nil =>
    cases bs with
    | nil => exact ⟨[], .nil, .nil⟩
    | cons b rest =>
      obtain ⟨a, ha, -⟩ := cover' b List.mem_cons_self
      cases ha
  | cons a as ih =>
    obtain ⟨b, hb, hab⟩ := cover a List.mem_cons_self
    obtain ⟨before, after, rfl⟩ := List.append_of_mem hb
    rw [List.pairwise_cons] at has
    have hba := symm a List.mem_cons_self b hab
    -- the partner of `a` is left out on the other side; nobody else is related to it
    have hrest : ∀ {c}, c ∈ before ++ after → ¬ R a c := by
      intro c hc hac
      have hca := symm a List.mem_cons_self c hac
      rw [List.pairwise_append, List.pairwise_cons] at hbs
      rcases List.mem_append.mp hc with hbefore | hafter
      · exact hbs.2.2 c hbefore b List.mem_cons_self (trans hca hab)
      · exact hbs.2.1.1 c hafter (trans hba hac)
    obtain ⟨cs, hperm, hrelated⟩ := ih (fun c hc => symm c (List.mem_cons_of_mem _ hc)) has.2
      (hbs.sublist ((List.sublist_cons_self b after).append_left before))
      (fun c hc => by
        obtain ⟨d, hd, hcd⟩ := cover c (List.mem_cons_of_mem _ hc)
        refine ⟨d, ?_, hcd⟩
        have hne : d ≠ b := by
          rintro rfl
          exact has.1 c hc (trans hab (symm c (List.mem_cons_of_mem _ hc) _ hcd))
        simpa [hne] using hd)
      (fun d hd => by
        have hmem : d ∈ before ++ b :: after :=
          (List.Sublist.append_left (List.sublist_cons_self b after) before).mem hd
        obtain ⟨c, hc, hcd⟩ := cover' d hmem
        rcases List.mem_cons.mp hc with rfl | hc
        · exact absurd hcd (hrest hd)
        · exact ⟨c, hc, hcd⟩)
    exact ⟨b :: cs, (hperm.cons b).trans List.perm_middle.symm, .cons hab hrelated⟩

end JsonShape
