import Vestibule.Json.Basic

/-! The messages that carry codes. -/

namespace Vestibule

structure EmailMessage where
  sender : String
  recipient : String
  subject : String
  body : String
  deriving DecidableEq, Repr

namespace EmailMessage

def toJson (m : EmailMessage) : Json :=
  .object [("from", .string m.sender), ("to", .string m.recipient), ("subject", .string m.subject),
    ("body", .string m.body)]

/-- The line of the code and what to do with it. -/
def codeBody (what purpose code : String) : String :=
  "Your " ++ what ++ " code is: " ++ code ++ "\n\nEnter this code to " ++ purpose ++
    ".\n\nIf you didn't request this, you can safely ignore this email."

def verificationCode (sender recipient code : String) : EmailMessage :=
  ⟨sender, recipient, "Your verification code",
    codeBody "verification" "verify your email address" code⟩

def passwordResetCode (sender recipient code : String) : EmailMessage :=
  ⟨sender, recipient, "Password reset code",
    codeBody "password reset" "reset your password" code⟩

end EmailMessage

end Vestibule
