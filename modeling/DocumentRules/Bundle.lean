import DocumentRules.Files
import DocumentRules.Value.Basic

/-!
Documents that come with the library, as the files they are and as what the contract
among them says. They lie in a directory of their own, where a contract is looked for
after the working directory.
-/

set_option autoImplicit false

namespace DocumentRules

/-- Files hold bytes. -/
structure Disk extends Files (List UInt8) where
  /-- The names that lead from the root to the directory of the bundled documents. -/
  library : List String

/-- Where a path leads that is followed from the directory of the bundled documents. A path from
the root leads out of it, and so may one that goes up. -/
def Disk.inLibrary (disk : Disk) (location : Location) : Location :=
  if location.isRooted then location else ⟨"/", disk.library ++ location.names⟩

namespace Bundle

/-! ## What the contract says -/

variable {κ : Type}

def texts (items : List String) : Datum κ := .list (items.map .text)

def validation (entries : List (String × Datum κ)) : String × Datum κ :=
  ("validate", .mapping entries)

def mayBeNull (truth : Bool) : String × Datum κ := ("allowNull", .bool truth)

def typed (name : String) : String × Datum κ := ("type", .text name)

def username : Datum κ :=
  .mapping
    [mayBeNull false,
     validation
      [("isString", .bool true),
       ("is", texts ["^[a-zA-Z0-9]+$", "i"]),
       ("len", .list [.integer 5, .integer 50])]]

def email : Datum κ :=
  .mapping
    [mayBeNull false, validation [("isString", .bool true), ("isEmail", .bool true)]]

def phone : Datum κ :=
  .mapping
    [mayBeNull true, validation [("matches", .text "^\\+?[0-9 ]\x7b6,20\x7d$")]]

def settings : Datum κ :=
  .mapping
    [typed "object",
     mayBeNull true,
     ("schema", .mapping
      [("locale", .mapping [mayBeNull true, validation [("isIn", texts ["en", "fr", "de"])]]),
       ("optinNewsletter", .mapping [typed "boolean", mayBeNull true])])]

def grant : Datum κ :=
  .mapping
    [("$", .mapping [validation [("allowedKeys", texts ["name", "until"])]]),
     ("name", .mapping
      [typed "string",
       validation [("len", .list [.integer 3, .integer 10]), ("matches", .text "^[A-Z]+$")]]),
     ("until", .mapping [mayBeNull true, validation [("isDate", .bool true)]])]

def roles : Datum κ :=
  .mapping
    [typed "array",
     mayBeNull true,
     validation [("size", .list [.integer 1, .integer 9999])],
     ("schema", grant)]

def userPayloadSchema : Datum κ :=
  .mapping
    [("$", .mapping
      [validation
        [("allowedKeys", texts ["username", "email", "phone", "settings", "roles"])]]),
     ("username", username),
     ("email", email),
     ("phone", phone),
     ("settings", settings),
     ("roles", roles)]

def userPayload : Datum κ :=
  .mapping
    [("title", .text "User Payload"),
     ("description",
      .text "Sign-up payload: account fields, notification settings and role grants."),
     ("version", .text "1.0.0"),
     ("schema", userPayloadSchema)]

/-! ## The files -/

/-- The lines of the contract. -/
def contractLines : List String := [
  "\x7b",
  "  \"title\": \"User Payload\",",
  "  \"description\": \"Sign-up payload: account fields, notification settings and role grants.\",",
  "  \"version\": \"1.0.0\",",
  "  \"schema\": \x7b",
  "    \"$\": \x7b",
  "      \"validate\": \x7b",
  "        \"allowedKeys\": [\"username\", \"email\", \"phone\", \"settings\", \"roles\"]",
  "      \x7d",
  "    \x7d,",
  "    \"username\": \x7b",
  "      \"allowNull\": false,",
  "      \"validate\": \x7b",
  "        \"isString\": true,",
  "        \"is\": [\"^[a-zA-Z0-9]+$\", \"i\"],",
  "        \"len\": [5, 50]",
  "      \x7d",
  "    \x7d,",
  "    \"email\": \x7b",
  "      \"allowNull\": false,",
  "      \"validate\": \x7b",
  "        \"isString\": true,",
  "        \"isEmail\": true",
  "      \x7d",
  "    \x7d,",
  "    \"phone\": \x7b",
  "      \"allowNull\": true,",
  "      \"validate\": \x7b",
  "        \"matches\": \"^\\\\+?[0-9 ]\x7b6,20\x7d$\"",
  "      \x7d",
  "    \x7d,",
  "    \"settings\": \x7b",
  "      \"type\": \"object\",",
  "      \"allowNull\": true,",
  "      \"schema\": \x7b",
  "        \"locale\": \x7b",
  "          \"allowNull\": true,",
  "          \"validate\": \x7b",
  "            \"isIn\": [\"en\", \"fr\", \"de\"]",
  "          \x7d",
  "        \x7d,",
  "        \"optinNewsletter\": \x7b",
  "          \"type\": \"boolean\",",
  "          \"allowNull\": true",
  "        \x7d",
  "      \x7d",
  "    \x7d,",
  "    \"roles\": \x7b",
  "      \"type\": \"array\",",
  "      \"allowNull\": true,",
  "      \"validate\": \x7b",
  "        \"size\": [1, 9999]",
  "      \x7d,",
  "      \"schema\": \x7b",
  "        \"$\": \x7b",
  "          \"validate\": \x7b",
  "            \"allowedKeys\": [\"name\", \"until\"]",
  "          \x7d",
  "        \x7d,",
  "        \"name\": \x7b",
  "          \"type\": \"string\",",
  "          \"validate\": \x7b",
  "            \"len\": [3, 10],",
  "            \"matches\": \"^[A-Z]+$\"",
  "          \x7d",
  "        \x7d,",
  "        \"until\": \x7b",
  "          \"allowNull\": true,",
  "          \"validate\": \x7b",
  "            \"isDate\": true",
  "          \x7d",
  "        \x7d",
  "      \x7d",
  "    \x7d",
  "  \x7d",
  "\x7d"
]

/-- The text of the contract. -/
def contractText : String :=
  String.ofList (contractLines.flatMap fun line => line.toList ++ ['\n'])

/-- What the note in the directory says. It is no document. -/
def noteText : String := "\"\"\"Bundled JSON schema contracts.\"\"\"\n"

/-- The bytes of a text of seven-bit characters. -/
def plainBytes (text : String) : List UInt8 := text.toList.map fun c => UInt8.ofNat c.toNat

def contractName : String := "user_payload.json"

/-- The files of a directory: a contract, and a note about the directory itself. -/
def entriesIn (directory : List String) : List (List String × FileEntry (List UInt8)) :=
  [(directory ++ [contractName], .file (plainBytes contractText)),
   (directory ++ ["__init__.py"], .file (plainBytes noteText))]

/-- A disk on which the bundled documents lie in a directory. -/
def install (files : Files (List UInt8)) (directory : List String) : Disk where
  workingDirectory := files.workingDirectory
  entries := entriesIn directory ++ files.entries
  library := directory

end Bundle

end DocumentRules
