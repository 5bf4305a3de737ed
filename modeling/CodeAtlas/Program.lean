import CodeAtlas.Inference.Services
import CodeAtlas.Store.Operation

/-! # Programs

What is done with the store, with the clock and with the service that writes answers, one request
after the other. A program is a tree: each request has a continuation for every answer to it. So a
program may be run, stopped between two requests, or run in turns with another one. -/
namespace CodeAtlas

open Inference (Services ServiceError Completion)

inductive Program (α : Type) where
  | done (value : α)
  | now (next : Int → Program α)
  | perform (o : Store.Operation) (next : Except StoreError o.Result → Program α)
  | complete (prompt : String) (next : Except ServiceError (Option Completion) → Program α)

namespace Program

def bind : Program α → (α → Program β) → Program β
  | done a, f => f a
  | now next, f => now fun t => (next t).bind f
  | perform o next, f => perform o fun r => (next r).bind f
  | complete prompt next, f => complete prompt fun r => (next r).bind f

instance : Monad Program where
  pure := done
  bind := bind

theorem bind_done (p : Program α) : p.bind done = p := by
  induction p with
  | done a => rfl
  | now next ih => simp [bind, ih]
  | perform o next ih => simp [bind, ih]
  | complete prompt next ih => simp [bind, ih]

theorem bind_assoc (p : Program α) (f : α → Program β) (g : β → Program γ) :
    (p.bind f).bind g = p.bind fun a => (f a).bind g := by
  induction p with
  | done a => rfl
  | now next ih => simp [bind, ih]
  | perform o next ih => simp [bind, ih]
  | complete prompt next ih => simp [bind, ih]

instance : LawfulMonad Program := LawfulMonad.mk' _
  (fun p => bind_done p)
  (fun _ _ => rfl)
  (fun p f g => bind_assoc p f g)

def time : Program Int := now done

def request (o : Store.Operation) : Program (Except StoreError o.Result) := perform o done

def completion (prompt : String) : Program (Except ServiceError (Option Completion)) :=
  complete prompt done

end Program

/-! ## Runs -/

/-- Where a run stands: the store, how often the clock has been read, and what the completion
service has been told, the latest first. -/
structure Moment where
  store : Store
  readings : Nat := 0
  prompts : List String := []

namespace Program

/-- Run a program to its end. Every operation of the store reads the clock once. -/
def run (services : Services) (clock : Nat → Int) : Program α → Moment → α × Moment
  | done a, m => (a, m)
  | now next, m =>
      (next (clock m.readings)).run services clock { m with readings := m.readings + 1 }
  | perform o next, m =>
      let (r, store) := m.store.perform (clock m.readings) o
      (next r).run services clock { m with store, readings := m.readings + 1 }
  | complete prompt next, m =>
      (next (services.complete prompt)).run services clock
        { m with prompts := prompt :: m.prompts }

theorem run_bind (services : Services) (clock : Nat → Int) (p : Program α) (f : α → Program β)
    (m : Moment) :
    (p.bind f).run services clock m =
      (f (p.run services clock m).1).run services clock (p.run services clock m).2 := by
  induction p generalizing m with
  | done a => rfl
  | now next ih => simp [bind, run, ih]
  | perform o next ih => simp [bind, run, ih]
  | complete prompt next ih => simp [bind, run, ih]

end Program

end CodeAtlas
