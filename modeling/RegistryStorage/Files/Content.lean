/-!
What is found where a file is looked for.

There may be nothing, a text, or something that cannot be read as a text, such as a directory
or bytes that are no text. Every file that the program reads comes to it in this form.
-/

set_option autoImplicit false

namespace RegistryStorage

/-- What is found at a path. -/
inductive Content
  | missing
  | text (s : String)
  /-- Something that cannot be read, and why. -/
  | unreadable (reason : String)
deriving DecidableEq, Repr, Inhabited

namespace Content

/-- The content of a file with these bytes; none if they are no text. -/
def ofText? : Option String → Content
  | some s => .text s
  | none => .unreadable "stream did not contain valid UTF-8"

/-- What cannot be read of a directory. -/
def directory : Content := .unreadable "Is a directory (os error 21)"

/-- Why nothing can be read where nothing is. -/
def missingReason : String := "No such file or directory (os error 2)"

end Content

end RegistryStorage
