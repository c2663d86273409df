namespace EntitySearch

-- What comes of reading tokens `τ` from the front of a list: an error `ε`, or a value with fewer
-- than `bound` tokens left behind it. As each item takes at least one token, reading on and on
-- comes to an end.
inductive Reading (τ ε α : Type) (bound : Nat)
  | found (value : α) (rest : List τ) (fewer : rest.length < bound)
  | failed (error : ε)

namespace Reading

variable {τ ε α β : Type} {m n : Nat}

-- A bound may be raised.
def weaken (h : m ≤ n) : Reading τ ε α m → Reading τ ε α n
  | found value rest fewer => found value rest (Nat.lt_of_lt_of_le fewer h)
  | failed error => failed error

def map (f : α → β) : Reading τ ε α n → Reading τ ε β n
  | found value rest fewer => found (f value) rest fewer
  | failed error => failed error

-- The value and what is left behind it.
def toExcept : Reading τ ε α n → Except ε (α × List τ)
  | found value rest _ => .ok (value, rest)
  | failed error => .error error

@[simp]
theorem toExcept_weaken (h : m ≤ n) (r : Reading τ ε α m) : (r.weaken h).toExcept = r.toExcept := by
  cases r <;> rfl

end Reading

end EntitySearch
