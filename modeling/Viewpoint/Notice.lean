/-!
# Notices

While it works the library notes what its user should know: an owner that is overridden, criteria
that select everything, a view without content. A notice never changes a result, so it is returned
beside it.

* `Logged` pairs a result with the notices made on the way to it, in order.
* `Logged.notices_bind` says that the notices of two steps follow each other.
-/

namespace Viewpoint

/-- One record for the log: a message with named details. -/
structure Notice where
  /-- The details, each under its name. -/
  fields : List (String × String)
  /-- The text of the record. -/
  message : String
  deriving DecidableEq, Inhabited

/-- The record on one line: the message and then the details. -/
def Notice.text (notice : Notice) : String :=
  String.intercalate " "
    (notice.message :: notice.fields.map fun (name, value) => name ++ "=" ++ value)

/-- A result together with the notices made on the way to it. -/
structure Logged (α : Type) where
  /-- The result. -/
  value : α
  /-- The notices, in the order in which they were made. -/
  notices : List Notice := []

namespace Logged

variable {α β : Type}

/-- The first step's notices, then those of the step that uses its result. -/
protected def bind (first : Logged α) (next : α → Logged β) : Logged β :=
  ⟨(next first.value).value, first.notices ++ (next first.value).notices⟩

instance : Monad Logged where
  pure value := ⟨value, []⟩
  bind := Logged.bind

/-- A step that only makes notices. -/
def record (notices : List Notice) : Logged Unit :=
  ⟨(), notices⟩

/-- A result that needs no step has no notices. -/
@[simp]
theorem notices_pure (value : α) : (pure value : Logged α).notices = [] := rfl

/-- A result that needs no step is the given one. -/
@[simp]
theorem value_pure (value : α) : (pure value : Logged α).value = value := rfl

/-- The result of two steps is that of the second. -/
@[simp]
theorem value_bind (first : Logged α) (next : α → Logged β) :
    (first >>= next).value = (next first.value).value := rfl

/-- The notices of two steps follow each other. -/
@[simp]
theorem notices_bind (first : Logged α) (next : α → Logged β) :
    (first >>= next).notices = first.notices ++ (next first.value).notices := rfl

instance : LawfulMonad Logged :=
  LawfulMonad.mk' Logged
    (by
      intro α x
      obtain ⟨value, notices⟩ := x
      show Logged.bind _ _ = _
      simp [Logged.bind])
    (by
      intro α β value next
      show Logged.bind _ _ = _
      simp [Logged.bind, pure])
    (by
      intro α β γ x f g
      show Logged.bind (Logged.bind _ _) _ = Logged.bind _ (fun y => Logged.bind _ _)
      simp [Logged.bind, List.append_assoc])

end Logged

end Viewpoint
