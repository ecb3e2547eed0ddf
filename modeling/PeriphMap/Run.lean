import PeriphMap.Error
import PeriphMap.Event

/-! Computations that report events on their way to a result or an error. An error ends a
computation, and the events up to it are kept. -/

namespace PeriphMap

structure Run (α : Type) where
  events : List Event
  result : Except Error α

namespace Run

variable {α β : Type}

def pure (a : α) : Run α :=
  ⟨[], .ok a⟩

def bind (x : Run α) (f : α → Run β) : Run β :=
  match x.result with
  | .ok a => ⟨x.events ++ (f a).events, (f a).result⟩
  | .error e => ⟨x.events, .error e⟩

instance : Monad Run where
  pure := pure
  bind := bind

instance : LawfulMonad Run := LawfulMonad.mk' Run
  (by rintro α ⟨events, result⟩; cases result <;> simp [Functor.map, bind, pure])
  (by intro α β x f; simp [Bind.bind, Pure.pure, bind, pure])
  (by
    rintro α β γ ⟨events, result⟩ f g
    cases result with
    | error => rfl
    | ok a => cases h : (f a).result <;> simp [Bind.bind, bind, h])

def report (event : Event) : Run Unit :=
  ⟨[event], .ok ()⟩

def fail (error : Error) : Run α :=
  ⟨[], .error error⟩

/-- A result that was found without reporting anything. -/
def ofExcept {ε : Type} (toError : ε → Error) (x : Except ε α) : Run α :=
  ⟨[], x.mapError toError⟩

end Run
end PeriphMap
