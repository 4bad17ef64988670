import Conformance.Path

/-!
# The toolchain

Where the programs and schemas of a run are found.

## Main definitions

* `Toolchain`: one path per program and schema
* `Toolchain.forRoot`: the usual toolchain, with the schemas beside a test directory
-/

namespace Conformance

/-- The programs and schemas that jobs use. -/
structure Toolchain where
  rumur : Path := "rumur"
  murphi2c : Path := "murphi2c"
  murphi2uclid : Path := "murphi2uclid"
  murphi2xml : Path := "murphi2xml"
  valgrind : Path := "valgrind"
  xmllint : Path := "xmllint"
  uclid : Path := "uclid"
  verifierSchema : Path := "../misc/verifier.rng"
  murphi2xmlSchema : Path := "../misc/murphi2xml.rng"
deriving DecidableEq, Repr

/-- The usual toolchain, with the schemas in the directory `misc` beside `root`. -/
def Toolchain.forRoot (root : Path) : Toolchain :=
  let misc := Path.join (Path.join root "..") "misc"
  { verifierSchema := Path.join misc "verifier.rng"
    murphi2xmlSchema := Path.join misc "murphi2xml.rng" }

end Conformance
