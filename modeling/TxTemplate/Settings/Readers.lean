import TxTemplate.Fault
import TxTemplate.Settings.Document

set_option autoImplicit false

/-! What reads settings for the program: a reader of documents, and one of files of assignments.
Both belong to other libraries, and the program takes them as they are. -/

namespace TxTemplate

abbrev Environment := List (String × String)

structure Readers where
  document : String → Except ReaderFault Document
  /-- The environment with the assignments of a text. -/
  assignments : Environment → String → Except ReaderFault Environment

end TxTemplate
