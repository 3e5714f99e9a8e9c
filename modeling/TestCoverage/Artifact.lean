/-
  TestCoverage.Artifact

  One message of the build tool: what was built, and whether with the test harness.
  Messages that are about something else have neither a profile nor files.
-/
import TestCoverage.Json.Record
import TestCoverage.Path

namespace TestCoverage

/-- How something was built. -/
structure Profile where
  /-- with the test harness -/
  test : Bool := false
deriving DecidableEq, Repr

/-- What one message says was built. -/
structure Artifact where
  profile : Option Profile := none
  files : List Path := []
deriving DecidableEq, Repr

namespace Artifact

/-- The artifact can be run as a test. -/
def isTest (artifact : Artifact) : Bool :=
  artifact.profile.any (·.test)

/-- How a profile is written. -/
def profileShape : Json.Shape Profile where
  name := "Profile"
  fields := [.of "test" Json.readBool fun test profile => { profile with test }]
  default := {}

/-- Reads a path, which is written as text. -/
def readPath : Json.Reader Path := fun text =>
  (Json.readText "path string" text).map fun (path, rest) => (Utf8.encode path, rest)

/-- How an artifact is written. -/
def shape : Json.Shape Artifact where
  name := "BuildArtifact"
  fields := [
    .of "profile" (Json.readOption profileShape.read)
      fun profile artifact => { artifact with profile },
    .of "filenames" (Json.readList readPath)
      fun files artifact => { artifact with files }]
  default := {}

/-- Reads the artifact of one message. -/
def parse (message : List Char) : Except Json.Error Artifact :=
  Json.readDocument shape.read message

end Artifact
end TestCoverage
