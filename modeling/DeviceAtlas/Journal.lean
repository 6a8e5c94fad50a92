/-!
# Messages beside values

A computation that says what it does answers with a value and the messages on the way, in order.
Messages are no errors: nothing that runs later depends on them. Details are always of interest;
advisories point at values that a driver stack should not have reported, and are shown on request.

* `Logged.value_bind`, `Logged.messages_bind`: the value of a sequence is that of its parts, and
  the messages follow each other.
-/

namespace DeviceAtlas

/-- How a message is meant. -/
inductive Level where
  /-- A step of the work, or a query that had no answer. -/
  | detail
  /-- A reported value that makes no sense. -/
  | advisory
  deriving DecidableEq, Repr

/-- A line of the journal. -/
structure Message where
  level : Level
  text : String
  deriving DecidableEq, Repr

/-- A value with the messages that were written while it was found. -/
structure Logged (α : Type) where
  value : α
  messages : List Message

namespace Logged

variable {α β : Type}

instance : Monad Logged where
  pure a := ⟨a, []⟩
  bind x f := ⟨(f x.value).value, x.messages ++ (f x.value).messages⟩

@[ext] theorem ext {x y : Logged α} (value : x.value = y.value)
    (messages : x.messages = y.messages) : x = y := by
  cases x; cases y; simp_all

@[simp] theorem value_pure (a : α) : (pure a : Logged α).value = a := rfl

@[simp] theorem messages_pure (a : α) : (pure a : Logged α).messages = [] := rfl

@[simp] theorem value_bind (x : Logged α) (f : α → Logged β) :
    (x >>= f).value = (f x.value).value := rfl

@[simp] theorem messages_bind (x : Logged α) (f : α → Logged β) :
    (x >>= f).messages = x.messages ++ (f x.value).messages := rfl

@[simp] theorem value_map (f : α → β) (x : Logged α) : (f <$> x).value = f x.value := rfl

@[simp] theorem messages_map (f : α → β) (x : Logged α) : (f <$> x).messages = x.messages :=
  List.append_nil _

instance : LawfulMonad Logged :=
  LawfulMonad.mk' Logged
    (fun _ => ext rfl (by simp))
    (fun _ _ => ext rfl (by simp))
    (fun _ _ _ => ext rfl (by simp))

/-- The value of a loop is the loop over values. -/
@[simp] theorem value_foldlM (f : β → α → Logged β) (b : β) (items : List α) :
    (items.foldlM f b).value = items.foldl (fun b a => (f b a).value) b := by
  induction items generalizing b with
  | nil => rfl
  | cons a items ih => simp [ih]

/-- Write a detail. -/
def detail (text : String) : Logged Unit := ⟨(), [⟨.detail, text⟩]⟩

/-- Write an advisory. -/
def advise (text : String) : Logged Unit := ⟨(), [⟨.advisory, text⟩]⟩

@[simp] theorem value_advise (text : String) : (advise text).value = () := rfl

@[simp] theorem messages_advise (text : String) :
    (advise text).messages = [⟨.advisory, text⟩] := rfl

end Logged

end DeviceAtlas
