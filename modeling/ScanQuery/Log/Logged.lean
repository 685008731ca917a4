import ScanQuery.Log.Event

/-!
Values that come with the events of their computation. `Logged α` is a value beside a list of
events; computations in sequence append their events. What a computation answers never depends on
what it logs: `value` commutes with every way of combining computations.
-/

namespace ScanQuery.Log

/-- A value and the events that led to it, in order. -/
structure Logged (α : Type) where
  events : List Event
  value : α

namespace Logged

variable {α β : Type}

instance : Monad Logged where
  pure a := ⟨[], a⟩
  bind x f := ⟨x.events ++ (f x.value).events, (f x.value).value⟩

/-- The computation that only logs. -/
def log (e : Event) : Logged Unit :=
  ⟨[e], ()⟩

@[simp] theorem value_pure (a : α) : (pure a : Logged α).value = a := rfl

@[simp] theorem events_pure (a : α) : (pure a : Logged α).events = [] := rfl

@[simp] theorem value_bind (x : Logged α) (f : α → Logged β) :
    (x >>= f).value = (f x.value).value := rfl

@[simp] theorem events_bind (x : Logged α) (f : α → Logged β) :
    (x >>= f).events = x.events ++ (f x.value).events := rfl

@[simp] theorem value_log (e : Event) : (log e).value = () := rfl

@[simp] theorem events_log (e : Event) : (log e).events = [e] := rfl

theorem ext {x y : Logged α} (he : x.events = y.events) (hv : x.value = y.value) : x = y := by
  cases x; cases y; simp_all

instance : LawfulMonad Logged :=
  LawfulMonad.mk' Logged (fun _ => ext (by simp [Functor.map]) rfl)
    (fun _ _ => ext (by simp) rfl) (fun _ _ _ => ext (by simp) rfl)

/-! ### Computations that may fail -/

section Failing

variable {ε : Type}

@[simp] theorem value_run_pure (a : α) : (pure a : ExceptT ε Logged α).run.value = .ok a := rfl

@[simp] theorem value_run_throw (e : ε) :
    (throw e : ExceptT ε Logged α).run.value = .error e := rfl

/-- What a sequence answers is what its parts answer in sequence. -/
@[simp] theorem value_run_bind (x : ExceptT ε Logged α) (f : α → ExceptT ε Logged β) :
    (x >>= f).run.value = x.run.value >>= fun a => (f a).run.value := by
  rw [ExceptT.run_bind, value_bind]
  cases x.run.value <;> rfl

end Failing

end Logged

end ScanQuery.Log
