import JsonShape.Record.Shape

/-!
# Settings of inference

The settings are read from a record in which every field may be left out
(`InferenceConfig.ofFields`), and written as an object with the fields in the same order
(`InferenceConfig.toJson`).
-/

namespace JsonShape

/-- The settings of inference. -/
structure InferenceConfig where
  /-- Look for formats of strings. -/
  detectFormats : Bool := true
  /-- The `$schema` of documents. -/
  schemaUri : String := "https://json-schema.org/draft-07/schema"
  /-- How many elements an array must have before values are listed. -/
  enumMinItems : Nat := 10
  /-- How many values may be listed. -/
  enumMaxValues : Nat := 10
  /-- The listed values must be fewer than this share of the elements. It is finite because settings
  are read from JSON, which has finite numbers only. A program that sets the field by itself could
  also make it infinite, which acts like the largest number of that sign, or not a number, which
  acts like the largest positive one: no number of values reaches such a share. -/
  enumMaxRatio : Binary64 := .half
  /-- Names of properties that hold coordinates. -/
  coordinatePattern : String := "(?i)coordinates?|coords?|latLon|lonLat|point"
  /-- Names of properties that hold timestamps. -/
  timestampPattern : String := "(?i)timestamp|createdAt|updatedAt|occurredAt"
  /-- How many years back a timestamp may lie. -/
  timestampFloorYears : Nat := 50
  /-- The present in milliseconds since the epoch, if it is not to be taken from the clock. -/
  referenceTimeMs : Option Int := none

namespace InferenceConfig

/-- Set the share of listed values, which is brought into the range from zero to one. An infinite
share would be brought to the nearer end; what is not a number would stay as it is. -/
def withEnumMaxRatio (config : InferenceConfig) (ratio : Binary64) : InferenceConfig :=
  let unit := Binary64.ofInt 1
  { config with
    enumMaxRatio :=
      if ratio.lt (.zero false) then .zero false else if unit.lt ratio then unit else ratio }

/-- The shape of settings that are read. -/
def shape : RecordShape where
  title := "struct InferenceConfig"
  fields :=
    [{ name := "detectFormats", form := .flag },
     { name := "schemaUri", form := .text },
     { name := "enumMinItems", form := .size },
     { name := "enumMaxValues", form := .size },
     { name := "enumMaxRatio", form := .real },
     { name := "coordinatePattern", form := .text },
     { name := "timestampPattern", form := .text },
     { name := "timestampFloorYears", form := .whole "u32" 0 4294967295 },
     { name := "referenceTimeMs",
       form := .optional (.whole "i64" (-9223372036854775808) 9223372036854775807) }]

/-- The settings with the given fields. -/
def ofFields (given : Members Json) : InferenceConfig :=
  let base : InferenceConfig := {}
  let count (name : String) (otherwise : Nat) : Nat :=
    ((given.whole? name).map Int.toNat).getD otherwise
  { detectFormats := (given.flag? "detectFormats").getD base.detectFormats
    schemaUri := (given.text? "schemaUri").getD base.schemaUri
    enumMinItems := count "enumMinItems" base.enumMinItems
    enumMaxValues := count "enumMaxValues" base.enumMaxValues
    enumMaxRatio := (given.real? "enumMaxRatio").getD base.enumMaxRatio
    coordinatePattern := (given.text? "coordinatePattern").getD base.coordinatePattern
    timestampPattern := (given.text? "timestampPattern").getD base.timestampPattern
    timestampFloorYears := count "timestampFloorYears" base.timestampFloorYears
    referenceTimeMs := given.whole? "referenceTimeMs" }

/-- The settings as a JSON value. -/
def toJson (config : InferenceConfig) : Json :=
  .object
    ([("detectFormats", .bool config.detectFormats),
      ("schemaUri", .string config.schemaUri),
      ("enumMinItems", .number (.ofInt config.enumMinItems)),
      ("enumMaxValues", .number (.ofInt config.enumMaxValues)),
      ("enumMaxRatio", .number (.real config.enumMaxRatio)),
      ("coordinatePattern", .string config.coordinatePattern),
      ("timestampPattern", .string config.timestampPattern),
      ("timestampFloorYears", .number (.ofInt config.timestampFloorYears))]
      ++ (config.referenceTimeMs.map fun now =>
        ("referenceTimeMs", Json.number (.ofInt now))).toList)

end InferenceConfig

end JsonShape
