import ThalerNodelib.Runs
import ThalerNodelib.Types

/-!
The builders of unbond, node join and unjail transactions. They differ in the
options that make the transaction and in the two native functions that build
and export it: `Kind` holds the difference. The constructor makes the raw
transaction, `sign` only keeps the key pair, and the export signs with it.
-/
namespace ThalerNodelib.PublicBuilders

open Js Native Network KeyPairs ThalerNodelib.Types Runs

/-- What one of the three builders has of its own. `Fields` are its options
other than the network. -/
structure Kind (Fields : Type) where
  ow : Fields → Except JsError (Option String)
  buildRaw : Fields → NetworkConfig → Except JsError RawTx
  encodingPrefix : Buffer
  exportHex : Option Buffer → NativeKeyPair → Except JsError Buffer

variable {native : NativeModule} {Fields : Type}

/-- The raw transaction and its id are those of the options, in every state. -/
structure Builder (native : NativeModule) {Fields : Type} (kind : Kind Fields) where
  network : NetworkConfig
  network_accepted : owNetworkConfig network = true
  fields : Fields
  fields_accepted : kind.ow fields = .ok none
  unsignedRawTx : Buffer
  innertTxId : String
  prepared : kind.buildRaw fields network = .ok ⟨unsignedRawTx, innertTxId⟩
  keyPair : Option (KeyPair native)

structure Options (Fields : Type) where
  fields : Fields
  network : Option NetworkConfig

def owOptions (kind : Kind Fields) (options : Options Fields) :
    Except JsError (Option String) := do
  let fields ← kind.ow options.fields
  return fields <|> check (owOptionalNetworkConfig options.network) ""

theorem options_accepted {kind : Kind Fields} {options : Options Fields}
    (h : owOptions kind options = .ok none) :
    kind.ow options.fields = .ok none ∧ owOptionalNetworkConfig options.network = true := by
  unfold owOptions at h
  cases hfields : kind.ow options.fields with
  | error e =>
    rw [hfields] at h
    cases h
  | ok failure =>
    rw [hfields] at h
    have hnone := Except.ok.inj h
    cases failure with
    | some message => cases hnone
    | none => exact ⟨rfl, (check_eq_none _ _).mp hnone⟩

namespace Builder

variable {kind : Kind Fields}

variable (native kind) in
/-- The constructor, `prepareRawTx` included. -/
def new (options : Options Fields) : Except JsError (Builder native kind) :=
  match h : owOptions kind options with
  | .error e => .error e
  | .ok (some message) => .error (.argumentError "options" message)
  | .ok none =>
    match hraw : kind.buildRaw options.fields (initNetwork options.network) with
    | .error e => .error e
    | .ok rawTx => .ok {
        network := initNetwork options.network
        network_accepted := initNetwork_accepted (options_accepted h).2
        fields := options.fields
        fields_accepted := (options_accepted h).1
        unsignedRawTx := rawTx.unsignedRawTx
        innertTxId := rawTx.txId
        prepared := hraw
        keyPair := none }

/-- The constructor fails only in its check and in the native module. -/
theorem new_isOk_iff {options : Options Fields} :
    (∃ b, new native kind options = .ok b) ↔
      kind.ow options.fields = .ok none ∧ owOptionalNetworkConfig options.network = true ∧
        ∃ rawTx, kind.buildRaw options.fields (initNetwork options.network) = .ok rawTx := by
  have haccepts : owOptions kind options = .ok none ↔
      kind.ow options.fields = .ok none ∧ owOptionalNetworkConfig options.network = true := by
    refine ⟨options_accepted, fun h => ?_⟩
    obtain ⟨hfields, hnetwork⟩ := h
    rw [owOptions, hfields]
    simp [bind, Except.bind, pure, Except.pure, check, hnetwork]
  rw [← and_assoc, ← haccepts]
  unfold new
  split
  · rename_i h
    simp [h]
  · rename_i h
    simp [h]
  · rename_i h
    split
    · rename_i hraw
      simp [hraw]
    · rename_i rawTx hraw
      simp [h, hraw]

variable (b : Builder native kind)

def isCompleted : Bool := b.keyPair.isSome

def txId : String := b.innertTxId

def toUnsignedHex : Buffer := kind.encodingPrefix ++ b.unsignedRawTx

def sign (keyPair : KeyPair native) : Builder native kind := { b with keyPair := some keyPair }

def toHex : Except JsError Buffer :=
  match b.keyPair with
  | none => .error (.error "Transaction builder is not completed")
  | some keyPair => kind.exportHex (some b.unsignedRawTx) keyPair.toObject

end Builder

/-- The methods of the three builders; the getters of the options are one query. -/
inductive Call (native : NativeModule)
  | sign (keyPair : KeyPair native)
  | getNetwork
  | getFields
  | isCompleted
  | txId
  | toUnsignedHex
  | toHex

inductive Value (Fields : Type)
  | this
  | text (value : String)
  | buffer (value : Buffer)
  | flag (value : Bool)
  | network (value : NetworkConfig)
  | fields (value : Fields)

def machine (kind : Kind Fields) :
    Machine JsError (Builder native kind) (Call native) (Value Fields)
  | .sign keyPair => do modify fun b => b.sign keyPair; return .this
  | .getNetwork => return .network (← get).network
  | .getFields => return .fields (← get).fields
  | .isCompleted => return .flag (← get).isCompleted
  | .txId => return .text (← get).txId
  | .toUnsignedHex => return .buffer (← get).toUnsignedHex
  | .toHex => do return .buffer (← call (← get).toHex)

/-! The three kinds. -/

/-- `ENCODING_PREFIX`. -/
def encodingPrefix (digits : String) : Buffer := bufferFromHex digits

structure UnbondFields where
  stakingAddress : String
  nonce : BigNumber
  amount : BigNumber
  deriving DecidableEq

variable (native)

def owUnbondTransactionBuilderOptions (fields : UnbondFields) : Except JsError (Option String) := do
  let stakingAddress ← owStakingAddress native fields.stakingAddress
  return stakingAddress <|> owAccountNonce fields.nonce <|> owCoin fields.amount

/-- `UnbondTransactionBuilder`. -/
def unbond : Kind UnbondFields where
  ow := owUnbondTransactionBuilderOptions native
  buildRaw fields network := native.stakingTransaction.buildRawUnbondTransaction {
    stakingAddress := fields.stakingAddress
    nonce := fields.nonce.toString10
    amount := fields.amount.toString10
    chainHexId := network.chainHexId }
  encodingPrefix := encodingPrefix "0100"
  exportHex := native.stakingTransaction.unbondTransactionToHex

structure NodePublicKey where
  type : String
  value : String
  deriving DecidableEq

structure NodeMetaData where
  name : String
  securityContact : Option String
  consensusPublicKey : NodePublicKey
  deriving DecidableEq

/-- `owNodePublicKeyType`; the other properties of the meta data are strings. -/
def owNodeMetaData (value : NodeMetaData) : Option String :=
  check (value.consensusPublicKey.type == "tendermint/PubKeyEd25519") ""

/-- One character of a string that `JSON.stringify` prints. -/
def jsonCharacter (c : Char) : String :=
  if c = '"' then "\\\""
  else if c = '\\' then "\\\\"
  else if c = '\n' then "\\n"
  else if c = '\r' then "\\r"
  else if c = '\t' then "\\t"
  else if c.toNat = 8 then "\\b"
  else if c.toNat = 12 then "\\f"
  else if c.toNat < 32 then "\\u00" ++ hexEncode [UInt8.ofNat c.toNat]
  else String.singleton c

def jsonString (text : String) : String :=
  "\"" ++ String.join (text.toList.map jsonCharacter) ++ "\""

def jsonProperty (name value : String) : String := jsonString name ++ ":" ++ value

/-- Joins the properties that are not `undefined`. -/
def jsonObject (properties : List (Option String)) : String :=
  "\x7b" ++ String.intercalate "," (properties.filterMap id) ++ "\x7d"

/-- `JSON.stringify(parseNodeMetaDataForNative(nodeMetaData))`; an empty contact is left out. -/
def nativeNodeMetaData (value : NodeMetaData) : String :=
  let securityContact := value.securityContact.filter fun contact => contact != ""
  jsonObject [
    some (jsonProperty "name" (jsonString value.name)),
    securityContact.map fun contact => jsonProperty "security_contact" (jsonString contact),
    some (jsonProperty "consensus_pubkey" (jsonObject [
      some (jsonProperty "type" (jsonString value.consensusPublicKey.type)),
      some (jsonProperty "value" (jsonString value.consensusPublicKey.value))])),
    some (jsonProperty "confidential_init" (jsonObject [
      some (jsonProperty "cert" (jsonString "RklYTUU="))]))]

structure NodeJoinFields where
  stakingAddress : String
  nonce : BigNumber
  nodeMetaData : NodeMetaData
  deriving DecidableEq

def owNodeJoinTransactionBuilderOptions (fields : NodeJoinFields) :
    Except JsError (Option String) := do
  let stakingAddress ← owStakingAddress native fields.stakingAddress
  return stakingAddress <|> owAccountNonce fields.nonce <|> owNodeMetaData fields.nodeMetaData

/-- `NodeJoinTransactionBuilder`. -/
def nodeJoin : Kind NodeJoinFields where
  ow := owNodeJoinTransactionBuilderOptions native
  buildRaw fields network := native.councilNodeTransaction.buildRawNodeJoinTransaction {
    stakingAddress := fields.stakingAddress
    nonce := fields.nonce.toString10
    nodeMetaData := nativeNodeMetaData fields.nodeMetaData
    chainHexId := network.chainHexId }
  encodingPrefix := encodingPrefix "0102"
  exportHex := native.councilNodeTransaction.nodeJoinTransactionToHex

structure UnjailFields where
  stakingAddress : String
  nonce : BigNumber
  deriving DecidableEq

def owUnjailTransactionBuilderOptions (fields : UnjailFields) :
    Except JsError (Option String) := do
  let stakingAddress ← owStakingAddress native fields.stakingAddress
  return stakingAddress <|> owAccountNonce fields.nonce

/-- `UnjailTransactionBuilder`. -/
def unjail : Kind UnjailFields where
  ow := owUnjailTransactionBuilderOptions native
  buildRaw fields network := native.councilNodeTransaction.buildRawUnjailTransaction {
    stakingAddress := fields.stakingAddress
    nonce := fields.nonce.toString10
    chainHexId := network.chainHexId }
  encodingPrefix := encodingPrefix "0101"
  exportHex := native.councilNodeTransaction.unjailTransactionToHex

variable {native}

/-- A key pair once stored stays until another replaces it, and nothing else changes. -/
theorem next_eq {kind : Kind Fields} (s : Builder native kind) (c : Call native) :
    next (machine kind) s c = s ∨ ∃ keyPair, c = .sign keyPair ∧
      next (machine kind) s c = s.sign keyPair := by
  cases c with
  | sign keyPair => exact Or.inr ⟨keyPair, rfl, rfl⟩
  | toHex =>
    refine Or.inl ?_
    cases h : s.toHex <;> simp [next, machine, h]
  | _ => exact Or.inl rfl

theorem toHex_outcome {kind : Kind Fields} (s : Builder native kind) :
    outcome (machine kind) s .toHex = s.toHex.map .buffer := by
  cases h : s.toHex <;> simp [outcome, machine, h, Except.map]

end ThalerNodelib.PublicBuilders
