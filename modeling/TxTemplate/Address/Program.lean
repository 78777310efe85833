import TxTemplate.Address.Basic

set_option autoImplicit false

/-! The addresses of the programs that templates and tools know, and the tags that name some of
them. -/

namespace TxTemplate.Address

def systemProgram : Address :=
  ⟨[0, 0, 0, 0, 0, 0, 0, 0, 0, 0, 0, 0, 0, 0, 0, 0,
    0, 0, 0, 0, 0, 0, 0, 0, 0, 0, 0, 0, 0, 0, 0, 0], rfl⟩

def tokenProgram : Address :=
  ⟨[6, 221, 246, 225, 215, 101, 161, 147, 217, 203, 225, 70, 206, 235, 121, 172,
    28, 180, 133, 237, 95, 91, 55, 145, 58, 140, 245, 133, 126, 255, 0, 169], rfl⟩

def associatedTokenProgram : Address :=
  ⟨[140, 151, 37, 143, 78, 36, 137, 241, 187, 61, 16, 41, 20, 142, 13, 131,
    11, 90, 19, 153, 218, 255, 16, 132, 4, 142, 123, 216, 219, 233, 248, 89], rfl⟩

def computeBudgetProgram : Address :=
  ⟨[3, 6, 70, 111, 229, 33, 23, 50, 255, 236, 173, 186, 114, 195, 155, 231,
    188, 140, 229, 187, 197, 247, 18, 107, 44, 67, 155, 58, 64, 0, 0, 0], rfl⟩

def upgradeableLoader : Address :=
  ⟨[2, 168, 246, 145, 78, 136, 161, 176, 226, 16, 21, 62, 247, 99, 174, 43,
    0, 194, 185, 61, 22, 193, 36, 210, 192, 83, 122, 16, 4, 128, 0, 0], rfl⟩

def wellKnown : List (String × Address) :=
  [("system_program", systemProgram), ("token_program", tokenProgram),
   ("associated_token_program", associatedTokenProgram),
   ("compute_budget_program", computeBudgetProgram)]

def ofTag? (tag : String) : Option Address := wellKnown.lookup tag

end TxTemplate.Address
