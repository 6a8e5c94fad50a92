import DeviceAtlas.Journal
import DeviceAtlas.Json

/-!
# Settings

What a discovery pass may be told. The settings that belong to the matrix change what comes out;
the one about advisories changes only which messages are written.
-/

namespace DeviceAtlas

/-- The settings of a discovery pass. -/
structure Settings where
  /-- Show advisories. -/
  showAdvisories : Bool := false
  /-- The technology of the links that count; case matters. -/
  linkModel : String := "XeLink"
  /-- The bandwidth, in MB/s, that stands between the parts of one device. -/
  localBandwidth : UInt64 := 1000000
  /-- What the matrix is called. -/
  matrixName : String := "XeLinkBandwidth"
  deriving DecidableEq, Repr

namespace Settings

/-- The usual settings, but with advisories. What collects facts has these unless told otherwise. -/
def verbose : Settings := { showAdvisories := true }

/-- Write an advisory if the settings ask for it. -/
def advise (s : Settings) (text : String) : Logged Unit :=
  if s.showAdvisories then Logged.advise text else pure ()

@[simp] theorem value_advise (s : Settings) (text : String) : (s.advise text).value = () := rfl

/-- Whether the settings show a message. -/
def shows (s : Settings) (m : Message) : Bool :=
  s.showAdvisories || m.level = .detail

/-- What was written under other settings, as far as these show it. -/
def present {α : Type} (s : Settings) (x : Logged α) : Logged α :=
  { x with messages := x.messages.filter s.shows }

/-- The usual settings under the value of the environment variable that asks for advisories: it
does unless it is missing, empty or zero. -/
def ofEnvironment (value : Option String) : Settings where
  showAdvisories := value.any fun v => v ≠ "" && v ≠ "0"

/-- The settings as an object. -/
def toJson (s : Settings) : Json :=
  .object
    [("show_all_errors", .bool s.showAdvisories), ("link_model", .text s.linkModel),
     ("local_bandwidth", .ofNat s.localBandwidth.toNat), ("distances_name", .text s.matrixName)]

/-- Read settings, of which none may be missing. -/
def ofJson? (j : Json) : Option Settings := do
  let j := j.record ["show_all_errors", "link_model", "local_bandwidth", "distances_name"] 4
  let showAdvisories ← j.required "show_all_errors" Json.bool?
  let linkModel ← j.required "link_model" Json.text?
  let localBandwidth ← j.required "local_bandwidth" Json.uint64?
  let matrixName ← j.required "distances_name" Json.text?
  return { showAdvisories, linkModel, localBandwidth, matrixName }

end Settings

end DeviceAtlas
