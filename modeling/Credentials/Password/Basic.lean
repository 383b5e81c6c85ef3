import Credentials.Password.Record

/-!
# Passwords

* `Password.hash` — the line to store for a password, with a salt that was drawn for it.
* `Password.verify` — whether a password goes with a stored line. It fails only if the line is no
  stored password, whatever the password is.
-/

namespace Credentials.Password

/-- The record of a password under a cost and a salt. -/
def record (cost : Nat) (salt : Bcrypt.Salt) (password : String) : Record :=
  ⟨cost, salt, Bcrypt.digest cost salt (Utf8.ofString password)⟩

/-- The line to store for a password. -/
def hash (salt : Bcrypt.Salt) (password : String) : String := (record hashCost salt password).text

/-- Whether a password goes with a stored line. -/
def verify (password line : String) : Except Fault Bool := do
  let r ← Record.parse line
  return record r.cost r.salt password = r

/-- The words for a line that is no stored password. -/
def verifyMessage (fault : Fault) : String := "failed to verify password: " ++ fault.message

end Credentials.Password
