import ClassProfile.Policy.Document
import ClassProfile.Text.Separation

/-! Policies in files. The state of the file is given; what it holds must be UTF-8
text, in which any line end counts as a line feed. -/
namespace ClassProfile.Policy

/-- What is found at a path. -/
inductive FileState where
  | missing
  /-- Something that the system does not read, as a directory, and says why. -/
  | unreadable (reason : String)
  | file (bytes : List UInt8)

/-- Why a file gives no policy. -/
inductive LoadFault where
  | notFound (path : String)
  | notReadable (reason : String)
  /-- The bytes are no text. -/
  | notText
  | text (label : String) (fault : TextFault)
  deriving DecidableEq

/-- The words for a file that cannot be read, but for the reason. -/
def unreadableFile : String := "Cannot read type policy file"

/-- The words for a fault that is an error of the policy. -/
def LoadFault.message? : LoadFault → Option String
  | notFound path => some ("Type policy file not found: " ++ path)
  | notReadable reason => some (unreadableFile ++ ": " ++ reason)
  | notText => none
  | text label fault => fault.message? label

/-- The path without the parts that lead nowhere: empty ones and single dots. Two
slashes at its start are kept, and more count as one. -/
def normalizedPath (path : String) : String :=
  let slashes := path.toList.takeWhile (· == '/')
  let root := if slashes.isEmpty then "" else if slashes.length = 2 then "//" else "/"
  let parts := (Text.parts '/' path.toList).filter fun part => !part.isEmpty && part != ['.']
  let joined := String.intercalate "/" (parts.map String.ofList)
  if root.isEmpty && joined.isEmpty then "." else root ++ joined

/-- The text with every line end turned into a line feed. -/
def withLineFeeds : List Char → List Char
  | [] => []
  | '\r' :: '\n' :: rest => '\n' :: withLineFeeds rest
  | '\r' :: rest => '\n' :: withLineFeeds rest
  | c :: rest => c :: withLineFeeds rest

/-- The text that bytes hold. -/
def textOf? (bytes : List UInt8) : Option String :=
  (String.fromUTF8? ⟨bytes.toArray⟩).map fun text => String.ofList (withLineFeeds text.toList)

def load (loader : Yaml.Loader) (path : String) (state : FileState) : Except LoadFault Policy :=
  let label := normalizedPath path
  match state with
  | .missing => .error (.notFound label)
  | .unreadable reason => .error (.notReadable reason)
  | .file bytes =>
    match textOf? bytes with
    | none => .error .notText
    | some text => (ofText loader text).mapError (.text label)

end ClassProfile.Policy
