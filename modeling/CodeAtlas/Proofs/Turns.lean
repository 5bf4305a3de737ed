import CodeAtlas.Proofs.Execution
import Mathlib.Logic.Function.Basic
import Mathlib.Logic.Relation

/-! # Turns

Programs that share a store and a clock take turns. At each turn one of them has one request
answered; any order of turns may come about, and a program that gets no turn any more is cut off.
Up to the first request of all others, a program is executed as if it were alone. -/
namespace CodeAtlas

/-- What each program has left, the store and the clock that all share, and what the store was
asked by whom. -/
structure Scene (ι : Type) (α : ι → Type) where
  left : ∀ i, Program (α i)
  store : Store
  time : Int
  log : List (ι × Event) := []

namespace Scene

variable {ι : Type} [DecidableEq ι] {α : ι → Type}

/-- How a program finds what it shares with the others. -/
def world (S : Scene ι α) : World := ⟨S.store, S.time, []⟩

/-- The scene after a turn of one program. -/
def after (S : Scene ι α) (i : ι) (q : Program (α i)) (w : World) : Scene ι α :=
  ⟨Function.update S.left i q, w.store, w.time, S.log ++ w.trace.map fun e => (i, e)⟩

/-- One program has one request answered. -/
inductive Turn (S : Scene ι α) : Scene ι α → Prop
  | take (i : ι) {q : Program (α i)} {w : World} (step : (S.left i).Step S.world q w) :
      Turn S (S.after i q w)

/-- Any number of turns are taken. -/
def Turns : Scene ι α → Scene ι α → Prop := Relation.ReflTransGen Turn

/-- A program has something left, or asked the store later than a part of the log. -/
def RunsOn (S : Scene ι α) (i : ι) (later : List (ι × Event)) : Prop :=
  (S.left i).Pending ∨ ∃ e, (i, e) ∈ later

variable {S S' : Scene ι α}

@[simp] lemma after_left_self {i : ι} {q : Program (α i)} {w : World} :
    (S.after i q w).left i = q := Function.update_self ..

@[simp] lemma after_left_of_ne {i j : ι} {q : Program (α i)} {w : World} (h : j ≠ i) :
    (S.after i q w).left j = S.left j := Function.update_of_ne h ..

end Scene

namespace Program

lemma Step.shift {p q : Program α} {s : Store} {t : Int} {w : World} (h : Step p ⟨s, t, []⟩ q w)
    (trace : List Event) : Step p ⟨s, t, trace⟩ q ⟨w.store, w.time, trace ++ w.trace⟩ := by
  cases h with
  | @now next _ t' later =>
    have step : Step (.now next) ⟨s, t, trace⟩ (next t') _ := .now later
    simpa [World.read] using step
  | @perform o next _ t' r s' later answers =>
    have step : Step (.perform o next) ⟨s, t, trace⟩ (next r) _ := .perform later answers
    simpa [World.answered] using step
  | @complete prompt next _ reply =>
    have step : Step (.complete prompt next) ⟨s, t, trace⟩ (next reply) _ := .complete reply
    simpa using step

/-- A request is at most one question to the store. -/
lemma Step.trace {p q : Program α} {s : Store} {t : Int} {w : World}
    (h : Step p ⟨s, t, []⟩ q w) : w.trace = [] ∨ ∃ e, w.trace = [e] := by
  cases h with
  | now => exact .inl rfl
  | perform => exact .inr ⟨_, rfl⟩
  | complete => exact .inl rfl

lemma Step.asked {o : Store.Operation} {next : Except StoreError o.Result → Program α}
    {q : Program α} {w v : World} (h : Step (.perform o next) w q v) : ∃ e, e ∈ v.trace := by
  cases h with
  | perform => exact ⟨_, List.mem_append_right _ (List.mem_singleton_self _)⟩

lemma Step.alone {p q : Program α} {w v : World} (h : Step p w q v) :
    ∃ trace, Step p ⟨w.store, w.time, []⟩ q ⟨v.store, v.time, trace⟩ := by
  cases h with
  | now later => exact ⟨[], .now later⟩
  | perform later answers => exact ⟨_, .perform later answers⟩
  | complete reply => exact ⟨[], .complete reply⟩

lemma Steps.snoc {p q r : Program α} {w v u : World} (h : Steps p w q v) (last : Step q v r u) :
    Steps p w r u := by
  induction h with
  | refl => exact .step last (.refl _ _)
  | step first _ ih => exact .step first (ih last)

end Program

namespace Scene

variable {ι : Type} [DecidableEq ι] {α : ι → Type} {S₀ S S' : Scene ι α} {i : ι}
  {front rest : List (ι × Event)} {x : ι × Event}

lemma Turns.ask (h : Turns S₀ S) {o : Store.Operation}
    {next : Except StoreError o.Result → Program (α i)} (asks : S.left i = .perform o next)
    {t : Int} {r : Except StoreError o.Result} {s : Store} (later : S.time ≤ t)
    (answers : S.store.Answers t o r s) : Turns S₀ (S.after i (next r) ⟨s, t, [⟨o, r, s⟩]⟩) := by
  refine h.tail (.take i ?_)
  rw [asks]
  exact .perform later answers

lemma Turns.steps (h : Turns S₀ S) {p q : Program (α i)} {w v : World} (steps : p.Steps w q v)
    (left : S.left i = p) (store : S.store = w.store) (time : S.time = w.time) :
    ∃ S', Turns S₀ S' ∧ S'.left i = q ∧ S'.store = v.store ∧
      ∀ j, j ≠ i → S'.left j = S.left j := by
  induction steps generalizing S with
  | refl => exact ⟨S, h, left, store, fun _ _ => rfl⟩
  | step first _ ih =>
    obtain ⟨trace, step⟩ := first.alone
    rw [← left, ← store, ← time] at step
    obtain ⟨S', reach, last, same, others⟩ := ih (h.tail (.take i step)) after_left_self rfl rfl
    exact ⟨S', reach, last, same, fun j hj => (others j hj).trans (after_left_of_ne hj)⟩

/-! ## Logs -/

lemma Turn.log (h : Turn S S') : S'.log = S.log ∨ ∃ j e, S'.log = S.log ++ [(j, e)] := by
  obtain ⟨j, step⟩ := h
  obtain none | ⟨e, one⟩ := step.trace
  · exact .inl (by simp [after, none])
  · exact .inr ⟨j, e, by simp [after, one]⟩

lemma Turns.log (h : Turns S S') : ∃ more, S'.log = S.log ++ more := by
  induction h with
  | refl => exact ⟨[], (List.append_nil _).symm⟩
  | tail _ last ih =>
    obtain ⟨more, hmore⟩ := ih
    obtain same | ⟨j, e, one⟩ := last.log
    · exact ⟨more, same.trans hmore⟩
    · exact ⟨more ++ [(j, e)], by rw [one, hmore, List.append_assoc]⟩

lemma Turns.split (h : Turns S₀ S) (start : S₀.log = []) (split : S.log = front ++ x :: rest) :
    ∃ S₁ S₂, Turns S₀ S₁ ∧ S₁.log = front ∧ Turn S₁ S₂ ∧ S₂.log = front ++ [x] ∧ Turns S₂ S := by
  induction h generalizing rest with
  | refl =>
    rw [start] at split
    simp at split
  | @tail S S' before last ih =>
    obtain same | ⟨j, e, one⟩ := last.log
    · obtain ⟨S₁, S₂, reach, hfront, turn, hx, after⟩ := ih (same.symm.trans split)
      exact ⟨S₁, S₂, reach, hfront, turn, hx, after.tail last⟩
    · rw [one] at split
      obtain rfl | ⟨rest, y, rfl⟩ := List.eq_nil_or_concat rest
      · obtain ⟨rfl, hx⟩ := List.append_inj' split rfl
        cases hx
        exact ⟨S, S', before, rfl, last, one, .refl⟩
      · have split' : S.log ++ [(j, e)] = (front ++ x :: rest) ++ [y] := by simpa using split
        obtain ⟨earlier, -⟩ := List.append_inj' split' rfl
        obtain ⟨S₁, S₂, reach, hfront, turn, hx, after⟩ := ih earlier
        exact ⟨S₁, S₂, reach, hfront, turn, hx, after.tail last⟩

/-! ## Programs that stand still -/

lemma Turns.done {a : α i} (h : Turns S S') (done : S.left i = .done a) :
    S'.left i = .done a ∧ ∃ more, S'.log = S.log ++ more ∧ ∀ e, (i, e) ∉ more := by
  induction h with
  | refl => exact ⟨done, [], (List.append_nil _).symm, by simp⟩
  | tail _ last ih =>
    obtain ⟨still, more, hmore, none⟩ := ih
    obtain @⟨j, q, w, step⟩ := last
    obtain rfl | other := eq_or_ne i j
    · rw [still] at step
      cases step
    · refine ⟨(after_left_of_ne other).trans still, more ++ w.trace.map fun e => (j, e), ?_, ?_⟩
      · rw [after, hmore, List.append_assoc]
      · intro e he
        rcases List.mem_append.1 he with he | he
        · exact none e he
        · obtain ⟨d, -, heq⟩ := List.mem_map.1 he
          exact other (Prod.ext_iff.1 heq).1.symm

lemma Turns.pending_of_runsOn (h : Turns S S') (more : S'.log = S.log ++ rest)
    (on : S'.RunsOn i rest) : (S.left i).Pending := by
  cases left : S.left i with
  | done a =>
    obtain ⟨done, rest', hrest, none⟩ := h.done left
    obtain rfl := List.append_cancel_left (more.symm.trans hrest)
    rcases on with pending | ⟨e, he⟩
    · rw [done] at pending
      exact pending.elim
    · exact absurd he (none e)
  | now | perform | complete => trivial

/-- A program that has not asked the store its first question has done nothing. -/
lemma Turns.unmoved {o : Store.Operation} {next : Except StoreError o.Result → Program (α i)}
    (h : Turns S S') (first : S.left i = .perform o next) (more : S'.log = S.log ++ rest)
    (silent : ∀ e, (i, e) ∉ rest) : S'.left i = .perform o next := by
  induction h generalizing rest with
  | refl => exact first
  | tail before last ih =>
    obtain ⟨early, hearly⟩ := Turns.log before
    obtain ⟨j, step⟩ := last
    rw [after, hearly, List.append_assoc] at more
    obtain rfl := List.append_cancel_left more
    have still := ih hearly fun e he => silent e (List.mem_append_left _ he)
    obtain rfl | other := eq_or_ne i j
    · rw [still] at step
      obtain ⟨e, he⟩ := step.asked
      exact absurd (List.mem_append_right _ (List.mem_map_of_mem he)) (silent e)
    · exact (after_left_of_ne other).trans still

/-! ## Programs that are alone -/

/-- While no other program has asked anything, a program is executed as if there were no other. -/
lemma Turns.alone (h : Turns S₀ S) (start : S₀.log = [])
    (first : ∀ j, j ≠ i → ∃ (o : Store.Operation)
      (next : Except StoreError o.Result → Program (α j)), S₀.left j = .perform o next)
    (silent : ∀ j, j ≠ i → ∀ e, (j, e) ∉ S.log) :
    (S₀.left i).Steps S₀.world (S.left i) ⟨S.store, S.time, S.log.map Prod.snd⟩ := by
  induction h with
  | refl =>
    rw [start]
    exact .refl _ _
  | @tail S S' before last ih =>
    obtain ⟨j, step⟩ := last
    obtain rfl | other := eq_or_ne j i
    · have earlier := ih fun k hk e he => silent k hk e (List.mem_append_left _ he)
      refine earlier.snoc ?_
      simpa [after, Function.comp_def] using step.shift (S.log.map Prod.snd)
    · obtain ⟨o, next, request⟩ := first j other
      have still := Turns.unmoved before request (by rw [start, List.nil_append]) fun e he =>
        silent j other e (List.mem_append_left _ he)
      rw [still] at step
      obtain ⟨e, he⟩ := step.asked
      exact absurd (List.mem_append_right _ (List.mem_map_of_mem he)) (silent j other e)

end Scene

end CodeAtlas
