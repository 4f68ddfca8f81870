import Descent.Unicode.Letter

/-!
# The latest letters and numbers

Sets that patterns name follow version 16.0 of the standard, and names themselves follow version
17.0. It adds letters and numbers to those of 16.0 and takes none away.
-/

namespace Descent.Unicode.Latest

/-- The alphabetic characters that version 17.0 adds. -/
def newAlphabetic : CharSet := readSet "
  88f c5c cdc a7ce-a7cf a7d2 a7d4 a7f1 10940-10959 10ec5-10ec7 10efa-10efb 11b60-11b67 11db0-11ddb
  16ea0-16eb8 16ebb-16ed3 16ff2-16ff6 187f8-187ff 18d09-18d1e 18d80-18df2 1e6c0-1e6de 1e6e0-1e6f5
  1e6fe-1e6ff 2b73a-2b73f 2cea2-2cead 323b0-33479"

/-- The numbers that version 17.0 adds. -/
def newNumber : CharSet := readSet "11de0-11de9"

/-- Alphabetic characters. -/
def alphabetic : CharSet := Unicode.alphabetic.union newAlphabetic

/-- Alphabetic characters and numbers of every kind. -/
def alphanumeric : CharSet := .unions [Unicode.alphanumeric, newAlphabetic, newNumber]

end Descent.Unicode.Latest
