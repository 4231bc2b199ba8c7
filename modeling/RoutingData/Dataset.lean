import RoutingData.BuildError
import RoutingData.Net.Basic
import RoutingData.Table
import RoutingData.Wire.Field

/-!
# Datasets

The two datasets that routers read, as messages: lists of domains and lists of addresses. A field
that has its default value is not written, except for the value of an attribute. When a dataset is
loaded, rules and networks are made from the messages; what makes none is left out.
-/

namespace RoutingData

/-- The value of an attribute. -/
inductive AttributeValue where
  /-- A truth value. -/
  | bool (b : Bool)
  /-- A number. -/
  | int (i : Int64)
  deriving DecidableEq, Repr

/-- An attribute of a domain. -/
structure SiteAttribute where
  /-- The name of the attribute. -/
  key : String
  /-- Its value, if it has one. -/
  value : Option AttributeValue
  deriving DecidableEq, Repr

/-- A rule in the dataset of domain lists. -/
structure SiteDomain where
  /-- The kind of rule. -/
  kind : Int32
  /-- The value of the rule. -/
  value : String
  /-- The attributes of the rule. -/
  attributes : List SiteAttribute
  deriving DecidableEq, Repr

/-- A list of domains under its code. -/
structure SiteEntry where
  /-- The code. -/
  code : String
  /-- The rules. -/
  domains : List SiteDomain
  deriving DecidableEq, Repr

/-- A network in the dataset of address lists. -/
structure AddressRange where
  /-- The bytes of the address. -/
  address : Bytes
  /-- The length of the mask. -/
  length : UInt32
  deriving DecidableEq, Repr

/-- A list of networks under its code. -/
structure AddressEntry where
  /-- The code. -/
  code : String
  /-- The networks. -/
  ranges : List AddressRange
  /-- Whether the addresses outside the networks are meant. -/
  inverted : Bool
  deriving DecidableEq, Repr

/-! ### Writing -/

namespace SiteAttribute

/-- The message for an attribute. -/
def encode (a : SiteAttribute) : Bytes :=
  Wire.bytesFieldUnlessEmpty 1 (.ofText a.key) ++
    match a.value with
    | none => []
    | some (.bool b) => Wire.varintField 2 b.toNat
    | some (.int i) => Wire.varintField 3 i.toUInt64.toNat

/-- Reads the value of an attribute. Of several values the last one counts. -/
def decodeValue (fields : List Wire.Field) : Option (Option AttributeValue) := do
  let values ← (fields.filter fun f => f.number == 2 || f.number == 3).mapM fun f => do
    let n ← f.payload.varint?
    return if f.number = 2 then AttributeValue.bool (n != 0) else .int (UInt64.ofNat n).toInt64
  return values.getLast?

/-- Reads an attribute. -/
def decode (p : Wire.Payload) : Option SiteAttribute := do
  let fields ← Wire.readFields 3 (← p.bytes?)
  let key ← Wire.lastOf Wire.Payload.text? "" 1 fields
  let value ← decodeValue fields
  return ⟨key, value⟩

end SiteAttribute

namespace SiteDomain

/-- The message for a rule. Negative kinds are written with 64 bits. -/
def encode (d : SiteDomain) : Bytes :=
  Wire.varintFieldUnlessZero 1 d.kind.toInt64.toUInt64.toNat ++
    Wire.bytesFieldUnlessEmpty 2 (.ofText d.value) ++
    d.attributes.flatMap fun a => Wire.bytesField 3 a.encode

/-- Reads a rule. Of the number of the kind the lowest 32 bits count. -/
def decode (p : Wire.Payload) : Option SiteDomain := do
  let fields ← Wire.readFields 2 (← p.bytes?)
  let kind ← Wire.lastOf Wire.Payload.varint? 0 1 fields
  let value ← Wire.lastOf Wire.Payload.text? "" 2 fields
  let attributes ← Wire.allOf SiteAttribute.decode 3 fields
  return ⟨(UInt32.ofNat kind).toInt32, value, attributes⟩

/-- The number for a kind of rule. -/
def kindNumber : RuleKind → Int32
  | .keyword => 0
  | .regex => 1
  | .domain => 2
  | .full => 3

/-- The kind of rule with a number. -/
def kind? (n : Int32) : Option RuleKind := RuleKind.all.find? fun k => kindNumber k == n

/-- The message for a rule; its attributes are set to true. -/
def ofRule (r : Rule) : SiteDomain where
  kind := kindNumber r.kind
  value := r.value
  attributes := r.attributes.map fun key => ⟨key, some (.bool true)⟩

/-- The rule that a message stands for, if its kind is known. -/
def toRule? (d : SiteDomain) : Option Rule :=
  (kind? d.kind).map fun k => (Rule.plain k d.value).withAttributes (d.attributes.map (·.key))

end SiteDomain

namespace SiteEntry

/-- The message for a list. -/
def encode (e : SiteEntry) : Bytes :=
  Wire.bytesFieldUnlessEmpty 1 (.ofText e.code) ++
    e.domains.flatMap fun d => Wire.bytesField 2 d.encode

/-- Reads a list. -/
def decode (p : Wire.Payload) : Option SiteEntry := do
  let fields ← Wire.readFields 1 (← p.bytes?)
  let code ← Wire.lastOf Wire.Payload.text? "" 1 fields
  let domains ← Wire.allOf SiteDomain.decode 2 fields
  return ⟨code, domains⟩

/-- The message for the rules of a list. -/
def ofRules (code : String) (rules : List Rule) : SiteEntry := ⟨code, rules.map .ofRule⟩

end SiteEntry

namespace AddressRange

/-- The message for a network. -/
def encode (r : AddressRange) : Bytes :=
  Wire.bytesFieldUnlessEmpty 1 r.address ++ Wire.varintFieldUnlessZero 2 r.length.toNat

/-- Reads a network. Of the number for the length the lowest 32 bits count. -/
def decode (p : Wire.Payload) : Option AddressRange := do
  let fields ← Wire.readFields 2 (← p.bytes?)
  let address ← Wire.lastOf Wire.Payload.bytes? [] 1 fields
  let length ← Wire.lastOf Wire.Payload.varint? 0 2 fields
  return ⟨address, UInt32.ofNat length⟩

/-- The message for a network. -/
def ofNet (n : Net) : AddressRange := ⟨n.addressBytes, UInt32.ofNat n.length⟩

/-- The network that a message stands for, if it stands for one. -/
def toNet? (r : AddressRange) : Option Net := Net.ofBytes? r.address r.length.toNat

end AddressRange

namespace AddressEntry

/-- The message for a list. -/
def encode (e : AddressEntry) : Bytes :=
  Wire.bytesFieldUnlessEmpty 1 (.ofText e.code) ++
    (e.ranges.flatMap fun r => Wire.bytesField 2 r.encode) ++
    Wire.varintFieldUnlessZero 3 e.inverted.toNat

/-- Reads a list. -/
def decode (p : Wire.Payload) : Option AddressEntry := do
  let fields ← Wire.readFields 1 (← p.bytes?)
  let code ← Wire.lastOf Wire.Payload.text? "" 1 fields
  let ranges ← Wire.allOf AddressRange.decode 2 fields
  let inverted ← Wire.lastOf Wire.Payload.varint? 0 3 fields
  return ⟨code, ranges, inverted != 0⟩

/-- The message for the networks of a list. -/
def ofNets (code : String) (nets : List Net) : AddressEntry := ⟨code, nets.map .ofNet, false⟩

end AddressEntry

namespace Dataset

/-- The dataset of domain lists. -/
def encodeSites (entries : List SiteEntry) : Bytes :=
  entries.flatMap fun e => Wire.bytesField 1 e.encode

/-- The dataset of address lists. -/
def encodeAddresses (entries : List AddressEntry) : Bytes :=
  entries.flatMap fun e => Wire.bytesField 1 e.encode

/-- Reads a dataset whose entries are read by `read`. -/
def decodeEntries {α : Type} (read : Wire.Payload → Option α) (bytes : Bytes) :
    Option (List α) := do
  let fields ← Wire.readFields 0 bytes
  Wire.allOf read 1 fields

/-- Reads a dataset of domain lists. -/
def decodeSites (bytes : Bytes) : Except BuildError (List SiteEntry) :=
  match decodeEntries SiteEntry.decode bytes with
  | some entries => .ok entries
  | none => .error (.dataset .sites)

/-- Reads a dataset of address lists. -/
def decodeAddresses (bytes : Bytes) : Except BuildError (List AddressEntry) :=
  match decodeEntries AddressEntry.decode bytes with
  | some entries => .ok entries
  | none => .error (.dataset .addresses)

/-! ### Loading -/

/-- The rules of each list. Of entries with one code the last counts. -/
def rulesByCode (entries : List SiteEntry) : Table String (List Rule) :=
  .ofList (entries.map fun e => (e.code, e.domains.filterMap (·.toRule?)))

/-- The networks of each list. Of entries with one code the last counts. -/
def netsByCode (entries : List AddressEntry) : Table String (List Net) :=
  .ofList (entries.map fun e => (e.code, e.ranges.filterMap (·.toNet?)))

/-- Loads the rules from a dataset of domain lists. -/
def loadSites (bytes : Bytes) : Except BuildError (Table String (List Rule)) :=
  (decodeSites bytes).map rulesByCode

/-- Loads the networks from a dataset of address lists. -/
def loadAddresses (bytes : Bytes) : Except BuildError (Table String (List Net)) :=
  (decodeAddresses bytes).map netsByCode

end Dataset

end RoutingData
