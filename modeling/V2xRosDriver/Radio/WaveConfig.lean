/-
# Radio.WaveConfig -- wave.json, its entries and how a loader finds it

The driver learns which DSRCmsgIDs and PSIDs exist from one JSON file.  Parsing and
schema validation belong to rapidjson: a file is seen here only as what the loader
can tell about it, unreadable, unparsable, refused by the schema, or the array of
objects the schema accepts, each with its five string members.
-/
import V2xRosDriver.Theory.Numerals

namespace V2xRosDriver.Radio

set_option autoImplicit false

/-- One object of wave.json, `Node::WaveConfigStruct`. -/
structure WaveConfigStruct where
  name : String
  psid : String
  dsrcMsgId : String
  channel : String
  priority : String
  deriving DecidableEq, Repr

/-- What a loader finds at a path. -/
inductive WaveFile where
  | unreadable
  | unparsable
  | refused
  | accepted (entries : List WaveConfigStruct)
  deriving DecidableEq

/-- The files a client can be pointed at. -/
abbrev WaveFiles := String → WaveFile

/-- The objects a load appends: those of a file the schema accepts, none otherwise. -/
def WaveFile.entries : WaveFile → List WaveConfigStruct
  | .accepted entries => entries
  | _ => []

/-- The wave.json the driver ships. -/
def waveJson : List WaveConfigStruct :=
  [ ⟨"BSM", "0020", "20", "183", "6"⟩,
    ⟨"MAP", "0082", "18", "183", "3"⟩,
    ⟨"SPAT", "0082", "19", "183", "3"⟩,
    ⟨"TIM", "0083", "31", "183", "3"⟩,
    ⟨"PSM", "0027", "32", "183", "6"⟩,
    ⟨"SensorDataSharingMessage", "8010", "41", "183", "6"⟩,
    ⟨"MobilityRequest", "BFEE", "240", "183", "6"⟩,
    ⟨"MobilityResponse", "BFEE", "241", "183", "6"⟩,
    ⟨"MobilityOperation", "BFEE", "243", "183", "6"⟩,
    ⟨"MobilityPath", "BFEE", "242", "183", "6"⟩,
    ⟨"TrafficControlRequest", "8003", "244", "183", "6"⟩,
    ⟨"TrafficControlMessage", "8003", "245", "183", "6"⟩,
    ⟨"EmergencyVehicleResponse", "8005", "246", "183", "6"⟩,
    ⟨"EmergencyVehicleAck", "8005", "247", "183", "6"⟩ ]

end V2xRosDriver.Radio
