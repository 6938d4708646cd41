import Foreign.Library.Linker

/-!
A platform with one library to load and a few symbols in the running program, and the machine that has
their code.
-/

namespace Foreign.Sample

def libraryDirectory : String := "/usr/local/lib"

def libraryName : String := "libfixture.so"

def libraryPath : String := libraryDirectory ++ "/" ++ libraryName

def libraryCode : List (String × Native) :=
  [("abicall_fixture_add", .add),
    ("abicall_fixture_apply_int", .applyInt),
    ("abicall_fixture_sum_array", .sumArray),
    ("abicall_fixture_record_score", .recordScore),
    ("abicall_fixture_make_record", .makeRecord),
    ("abicall_fixture_fill", .fill),
    ("abicall_fixture_strlen", .textLength),
    ("abicall_fixture_wrap_u8", .wrapByte)]

def programCode : List (String × Native) :=
  [("abs", .abs), ("labs", .longAbs), ("strlen", .textLength), ("toupper", .toUpper)]

/-- Symbols at consecutive entries, the first of them number `first`. -/
def exportsFrom (first : Nat) (code : List (String × Native)) : Exports :=
  (code.zipIdx first).map fun (entry, index) => (entry.1, Machine.entryAddress index)

def programExports : Exports :=
  exportsFrom libraryCode.length programCode

/-- The bare names of the C library and of the libraries that come with it and lead to it. -/
def systemNames : List String :=
  ["libc.so.6", "libm.so.6", "libdl.so.2", "libpthread.so.0", "librt.so.1"]

/-- The library leads to the program's symbols too, since it is linked against the same C library. -/
def host : Host :=
  ⟨[⟨libraryPath, exportsFrom 0 libraryCode ++ programExports⟩],
    systemNames.map fun name => (name, programExports), programExports⟩

def machine : Machine :=
  .ofCode ((libraryCode ++ programCode).map fun entry => .native entry.2)

end Foreign.Sample
