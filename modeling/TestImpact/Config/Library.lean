import TestImpact.Config.Dump
import TestImpact.Config.Issue

/-!
# The library that checks values

Single values of settings are checked by a library (`pydantic`, version 2.5 or later), which also
dumps configurations. Which near values it takes for which others is its own rule: an integer in a
text, a truth value in a word, a tuple for a list. The sections of a configuration are put together
from its checks, whatever these do. `Library.Laws` states what it promises.
-/

namespace TestImpact.Config

/-- How values are turned into those of a type, or refused, and configurations into values. -/
structure Library where
  text : Data → Checked String
  int : Data → Checked Int
  bool : Data → Checked Bool
  path : Data → Checked Path
  /-- One of several words. -/
  word : List String → Data → Checked String
  /-- The items of a value that counts as a list, in the order in which they are listed. -/
  items : Data → Checked (List Data)
  /-- The entries of a value that counts as a mapping. -/
  entries : Data → Checked (List (Data × Data))
  /-- The fields of a value that counts as a section of a name. -/
  fields : String → Data → Checked (List (Data × Data))
  /-- The value of a configuration, without types (`model_dump`). -/
  dump : Config → Data

/-- A check that gives a value or issues, and nothing else. -/
def Reports {α : Type} (check : Data → Checked α) : Prop :=
  ∀ value, (∃ a, check value = .ok a) ∨ ∃ issue more, check value = .refused (issue :: more)

/-- What the library promises. -/
structure Library.Laws (lib : Library) : Prop where
  /-- A value that has the type already is taken as it is. -/
  text_text : ∀ s, lib.text (.text s) = .ok s
  int_int : ∀ n, lib.int (.int n) = .ok n
  bool_bool : ∀ b, lib.bool (.bool b) = .ok b
  path_path : ∀ p, lib.path (.path p) = .ok p
  items_list : ∀ items, lib.items (.list items) = .ok items
  entries_map : ∀ entries, lib.entries (.map entries) = .ok entries
  fields_map : ∀ name entries, lib.fields name (.map entries) = .ok entries
  /-- Of several words each one is taken. -/
  word_text : ∀ words, ∀ s ∈ words, lib.word words (.text s) = .ok s
  /-- What cannot be taken is reported as a validation error, with its issues. -/
  text_reports : Reports lib.text
  int_reports : Reports lib.int
  bool_reports : Reports lib.bool
  path_reports : Reports lib.path
  word_reports : ∀ words, Reports (lib.word words)
  items_report : Reports lib.items
  entries_report : Reports lib.entries
  fields_report : ∀ name, Reports (lib.fields name)
  /-- In a dump sections are mappings of all their fields, and the values in them are kept. -/
  dump_eq : ∀ c, lib.dump c = c.dump

end TestImpact.Config
