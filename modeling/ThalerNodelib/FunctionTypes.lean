import ThalerNodelib.Crates
import ThalerNodelib.Types

/-!
How the native module reads its arguments. A value that the library always
passes with the right type is that type here; a buffer that may be missing is
an `Option`, and taking it may throw. `chain_neon` puts a message before the
text of an error, or of neon's `Throw` where an exception is pending.
-/
namespace ThalerNodelib.FunctionTypes

open Js Native Network Crates

variable {α : Type}

/-- `chain_neon` of the error of a crate. -/
def chainNeon (x : Except String α) (message : String) : Except JsError α :=
  match x with
  | .ok v => .ok v
  | .error err => .error (.error s!"{message}: {err}")

@[simp] theorem chainNeon_ok (v : α) (message : String) : chainNeon (.ok v) message = .ok v := rfl

theorem chainNeon_eq_ok {x : Except String α} {message : String} {v : α} :
    chainNeon x message = .ok v ↔ x = .ok v := by
  cases x <;> simp [chainNeon]

variable (crates : Crates)

/-- `chain_neon` of a call that threw. -/
def chainThrow (x : Except JsError α) (message : String) : Except JsError α :=
  match x with
  | .ok v => .ok v
  | .error _ => .error (.error s!"{message}: {crates.neon.throw}")

theorem chainThrow_eq_ok {x : Except JsError α} {message : String} {v : α} :
    chainThrow crates x message = .ok v ↔ x = .ok v := by
  cases x <;> simp [chainThrow]

/-- `ctx.argument::<JsBuffer>`, and `downcast_or_throw`. -/
def bufferArgument (value : Option Buffer) : Except JsError Buffer :=
  match value with
  | some bytes => .ok bytes
  | none => .error (.typeError (crates.neon.downcast "Buffer"))

/-- `downcast_or_throw` followed by `chain_neon`. -/
def downcastBuffer (value : Option Buffer) (message : String) : Except JsError Buffer :=
  chainThrow crates (bufferArgument crates value) message

@[simp] theorem bufferArgument_some (bytes : Buffer) :
    bufferArgument crates (some bytes) = .ok bytes := rfl

@[simp] theorem downcastBuffer_some (bytes : Buffer) (message : String) :
    downcastBuffer crates (some bytes) message = .ok bytes := rfl

/-- `decode` of a slice: what follows the value is not looked at. -/
def decode (codec : Codec String α) (bytes : Buffer) (message : String) : Except JsError α :=
  chainNeon (codec.read bytes) message

def mainnetChainHexId : UInt8 := 0x2A

def testnetChainHexId : UInt8 := 0x42

def networkFromChainHexId (chainHexId : UInt8) : NetworkEnum :=
  if chainHexId = mainnetChainHexId then .mainnet
  else if chainHexId = testnetChainHexId then .testnet
  else .devnet

def chainHexIdFromVec (chainHexId : Buffer) : Except JsError UInt8 :=
  match chainHexId with
  | [b] => .ok b
  | _ => .error (.error "Chain hex id must be 8 bit long")

theorem chainHexIdFromVec_eq_ok {chainHexId : Buffer} {b : UInt8} :
    chainHexIdFromVec chainHexId = .ok b ↔ chainHexId = [b] := by
  unfold chainHexIdFromVec
  split <;> simp_all

def networkFromStr (network : String) : Except JsError NetworkEnum :=
  match network with
  | "Mainnet" => .ok .mainnet
  | "Testnet" => .ok .testnet
  | "Devnet" => .ok .devnet
  | network => .error (.error s!"Unrecognized network {network}")

@[simp] theorem networkFromStr_name (network : NetworkEnum) :
    networkFromStr network.name = .ok network := by
  cases network <;> rfl

def digitValue (c : Char) : Option ℕ :=
  if '0' ≤ c ∧ c ≤ '9' then some (c.toNat - '0'.toNat) else none

/-- The digits of an integer type below the bound, read from the left. -/
def parseDigits (bound : ℕ) : ℕ → List Char → Except String ℕ
  | value, [] => .ok value
  | value, c :: rest =>
    match digitValue c with
    | none => .error "invalid digit found in string"
    | some digit =>
      if bound ≤ 10 * value + digit then .error "number too large to fit in target type"
      else parseDigits bound (10 * value + digit) rest

/-- `str::parse::<u64>`. -/
def parseU64 (text : String) : Except String UInt64 :=
  match text.toList with
  | [] => .error "cannot parse integer from empty string"
  | '+' :: c :: rest => (parseDigits (2 ^ 64) 0 (c :: rest)).map UInt64.ofNat
  | digits => (parseDigits (2 ^ 64) 0 digits).map UInt64.ofNat

theorem digitValue_of_isDigit {c : Char} (h : c.isDigit = true) :
    digitValue c = some (c.toNat - '0'.toNat) := by
  have hc : '0' ≤ c ∧ c ≤ '9' := by
    simpa [Char.isDigit, Char.le_def] using h
  rw [digitValue, if_pos hc]

/-- Reading digits gives the number they denote, if that is below the bound. -/
theorem parseDigits_eq (bound : ℕ) (digits : List Char) (value : ℕ) (hvalue : value < bound)
    (hdigits : ∀ c ∈ digits, c.isDigit = true) :
    parseDigits bound value digits = if Nat.ofDigitChars 10 digits value < bound then
      .ok (Nat.ofDigitChars 10 digits value)
    else .error "number too large to fit in target type" := by
  induction digits generalizing value with
  | nil => simp [parseDigits, hvalue]
  | cons c rest ih =>
    have hdigit := digitValue_of_isDigit (hdigits c (List.mem_cons_self ..))
    have hrest : ∀ d ∈ rest, d.isDigit = true := fun d hd => hdigits d (List.mem_cons_of_mem _ hd)
    rw [parseDigits, hdigit, Nat.ofDigitChars_cons]
    by_cases hbound : bound ≤ 10 * value + (c.toNat - '0'.toNat)
    · have hgrow : 10 * value + (c.toNat - '0'.toNat) ≤
          Nat.ofDigitChars 10 rest (10 * value + (c.toNat - '0'.toNat)) := by
        rw [Nat.ofDigitChars_eq_ofDigitChars_zero]
        have hpos : 0 < 10 ^ rest.length := by positivity
        nlinarith
      simp only [if_pos hbound]
      rw [if_neg (by omega)]
    · simp only [if_neg hbound]
      exact ih _ (by omega) hrest

theorem parseU64_repr (n : ℕ) :
    parseU64 (Nat.repr n) = if n < 2 ^ 64 then .ok (UInt64.ofNat n)
    else .error "number too large to fit in target type" := by
  have hdigits : ∀ c ∈ Nat.toDigits 10 n, c.isDigit = true := fun c hc =>
    Nat.isDigit_of_mem_toDigits (by omega) (by omega) hc
  have hparse := parseDigits_eq (2 ^ 64) (Nat.toDigits 10 n) 0 (by omega) hdigits
  rw [Nat.ofDigitChars_ten_toDigits] at hparse
  rw [parseU64, Nat.toList_repr]
  split
  · rename_i hnil
    exact absurd hnil Nat.toDigits_ne_nil
  · rename_i c rest hplus
    have hbad := hdigits '+' (by rw [hplus]; exact List.mem_cons_self ..)
    exact absurd hbad (by decide)
  · rw [hparse]
    by_cases hn : n < 2 ^ 64
    · rw [if_pos hn, if_pos hn]
      rfl
    · rw [if_neg hn, if_neg hn]
      rfl

def parseAccountNonce (nonce : String) : Except JsError UInt64 :=
  chainNeon (parseU64 nonce) "Invalid nonce"

/-- An integral nonce is read when it is a natural number of 64 bits. -/
theorem parseAccountNonce_eq_ok {nonce : BigNumber} (hint : nonce.isInteger = true)
    {parsed : UInt64} :
    parseAccountNonce nonce.toString10 = .ok parsed ↔ nonce = .ofNat parsed.toNat := by
  cases nonce with
  | nan => cases hint
  | infinity negative => cases hint
  | finite q =>
    by_cases hneg : q < 0
    · obtain ⟨digits, hdigits⟩ := BigNumber.toString10_negative hint hneg
      have hbad : parseU64 ("-" ++ digits) = .error "invalid digit found in string" := by
        rw [parseU64, String.toList_append]
        rfl
      have hpos : ¬ BigNumber.finite q = .ofNat parsed.toNat := by
        intro h
        have hq : q = (parsed.toNat : ℚ) := BigNumber.finite.inj h
        rw [hq] at hneg
        exact absurd hneg (not_lt.mpr (Nat.cast_nonneg _))
      rw [hdigits, parseAccountNonce, hbad]
      constructor
      · intro h
        cases h
      · intro h
        exact absurd h hpos
    · obtain ⟨n, hn⟩ := BigNumber.eq_ofNat_of_integer hint
        (by simpa [BigNumber.isGreaterThanOrEqualTo] using not_lt.mp hneg)
      rw [hn, BigNumber.toString10_ofNat, parseAccountNonce, chainNeon_eq_ok, parseU64_repr]
      by_cases hlt : n < 2 ^ 64
      · rw [if_pos hlt]
        constructor
        · intro h
          rw [← Except.ok.inj h, UInt64.toNat_ofNat_of_lt' hlt]
        · intro h
          rw [BigNumber.ofNat_inj.mp h, UInt64.ofNat_toNat]
      · rw [if_neg hlt]
        constructor
        · intro h
          cases h
        · intro h
          have hparsed : parsed.toNat < 2 ^ 64 := parsed.toNat_lt
          rw [BigNumber.ofNat_inj.mp h] at hlt
          exact absurd hparsed hlt

def txidFromStr (txId : String) : Except JsError H256 := do
  let txid ← chainNeon (hexDecode txId) "Unable to deserialize TxId"
  if h : txid.length = 32 then return ⟨txid, h⟩
  else throw (.error "TxId should be 32 bytes long")

/-- An id is the bytes that its hex denotes. -/
theorem txidFromStr_bytes {txId : String} {id : H256} (h : txidFromStr txId = .ok id) :
    id.val = bufferFromHex txId := by
  obtain ⟨bytes, hbytes, h⟩ := bind_eq_ok.mp h
  by_cases hlength : bytes.length = 32
  · simp only [dif_pos hlength] at h
    rw [← Except.ok.inj h]
    exact (bufferFromHex_of_hexDecode (chainNeon_eq_ok.mp hbytes)).symm
  · simp only [dif_neg hlength] at h
    cases h

/-- What passes the pattern of `owTxId` is an id. -/
theorem txidFromStr_ok {txId : String} (h : Types.owTxId txId = none) :
    ∃ id, txidFromStr txId = .ok id := by
  simp only [Types.owTxId, check_eq_none, Bool.and_eq_true, beq_iff_eq, List.all_eq_true] at h
  obtain ⟨bytes, hbytes, hlen⟩ := hexDecode_ok (by omega) h.2
  have hlength : bytes.length = 32 := by omega
  exact ⟨⟨bytes, hlength⟩, by simp [txidFromStr, hbytes, hlength, bind, Except.bind, pure,
    Except.pure]⟩

/-- The `as` casts to `u16` and to `u64`. -/
def castU16 (x : JsNumber) : UInt16 := UInt16.ofNat (x.toUnsigned 16)

def castU64 (x : JsNumber) : UInt64 := UInt64.ofNat (x.toUnsigned 64)

/-- A natural number survives the cast to `u16` up to the largest one. -/
theorem castU16_eq_iff (n : ℕ) : (castU16 (.ofNat n)).toNat = n ↔ n ≤ 65535 := by
  rw [castU16, JsNumber.toUnsigned_ofNat, UInt16.toNat_ofNat']
  omega

theorem castU64_eq_iff (n : ℕ) : (castU64 (.ofNat n)).toNat = n ↔ n < 2 ^ 64 := by
  rw [castU64, JsNumber.toUnsigned_ofNat, UInt64.toNat_ofNat']
  omega

def parsePrevOutputPointer (pointer : PrevOutputPointer) : Except JsError TxoPointer := do
  let id ← txidFromStr pointer.prevTxId
  return { id := id, index := castU16 pointer.prevIndex }

def parsePrevOutputPointerVec (pointers : List PrevOutputPointer) :
    Except JsError (List TxoPointer) :=
  pointers.mapM parsePrevOutputPointer

/-- The address of an output, on the network of the chain id. -/
def parseOutputAddress (address : String) (network : NetworkEnum) :
    Except JsError crates.types.ExtendedAddr :=
  chainNeon (crates.keys.fromCro address network)
    "Unable to deserialize output address to CRO address"

def parseOutput (output : NativeOutput) (network : NetworkEnum) :
    Except JsError (TxOut crates.types) := do
  let address ← parseOutputAddress crates output.address network
  let value ← chainNeon (crates.transactions.coinFromStr output.value)
    "Unable to deserialize output Coin value"
  return { address := address, value := value, validFrom := output.validFrom.map castU64 }

variable {crates} in
/-- Each part of an output is parsed by itself. -/
theorem parseOutput_eq_ok {output : NativeOutput} {network : NetworkEnum}
    {txOut : TxOut crates.types} :
    parseOutput crates output network = .ok txOut ↔
      crates.keys.fromCro output.address network = .ok txOut.address ∧
        crates.transactions.coinFromStr output.value = .ok txOut.value ∧
        output.validFrom.map castU64 = txOut.validFrom := by
  constructor
  · intro h
    obtain ⟨address, haddress, h⟩ := bind_eq_ok.mp h
    obtain ⟨value, hvalue, h⟩ := bind_eq_ok.mp h
    obtain rfl := Except.ok.inj h
    exact ⟨chainNeon_eq_ok.mp haddress, chainNeon_eq_ok.mp hvalue, rfl⟩
  · intro h
    obtain ⟨haddress, hvalue, hvalidFrom⟩ := h
    refine bind_eq_ok.mpr ⟨_, chainNeon_eq_ok.mpr haddress,
      bind_eq_ok.mpr ⟨_, chainNeon_eq_ok.mpr hvalue, ?_⟩⟩
    rw [hvalidFrom]
    rfl

def parseViewKey (viewKey : Buffer) : Except JsError crates.types.PublicKey :=
  chainNeon (crates.keys.publicKeyFromStr (hexEncodeUpper viewKey))
    "Unable to deserialize view key"

def parseLinearFeeConfig (feeConfig : NativeFeeConfig) :
    Except JsError (LinearFee crates.types) := do
  if feeConfig.algorithm != "LinearFee" then
    throw (.error s!"Expected LinearFee but got {feeConfig.algorithm}")
  let constant ← chainNeon (crates.transactions.milliFromStr feeConfig.constant)
    "Invalid constant config in LinearFee"
  let coefficient ← chainNeon (crates.transactions.milliFromStr feeConfig.coefficient)
    "Invalid coefficient config in LinearFee"
  return { constant := constant, coefficient := coefficient }

def publicKeyArgument (publicKey : Buffer) : Except JsError crates.types.PublicKey :=
  chainNeon (crates.keys.publicKeyDeserializeFrom publicKey) "Unable to deserialize public key"

def privateKeyArgument (privateKey : Buffer) : Except JsError crates.types.PrivateKey :=
  chainNeon (crates.keys.privateKeyDeserializeFrom privateKey) "Unable to deserialize private key"

def parseKeyPair (keyPair : NativeKeyPair) :
    Except JsError (crates.types.PrivateKey × crates.types.PublicKey) := do
  let publicKey ← downcastBuffer crates keyPair.publicKey
    "Unable to downcast public key in KeyPair"
  let publicKey ← chainNeon (crates.keys.publicKeyDeserializeFrom publicKey)
    "Unable to deserialize public key in KeyPair"
  let privateKey ← downcastBuffer crates keyPair.privateKey
    "Unable to downcast private key in KeyPair"
  let privateKey ← chainNeon (crates.keys.privateKeyDeserializeFrom privateKey)
    "Unable to deserialize private key in KeyPair"
  return (privateKey, publicKey)

def stakingAddress (address message : String) : Except JsError crates.types.StakedStateAddress :=
  chainNeon (crates.keys.stakedStateAddressFromStr address) message

def parseStakedStateOpWitness (witness : Buffer) :
    Except JsError crates.types.StakedStateOpWitness :=
  decode crates.transactions.stakedStateOpWitness witness
    "Unable to decode staked state op witness"

/-! The signer of one key pair. -/

structure KeyPairSigner (types : ChainTypes) where
  proof : types.Proof
  privateKey : types.PrivateKey

namespace KeyPairSigner

/-- The address that the key unlocks alone, and the proof that it does. -/
def generateExtendedAddrAndProof (publicKey : crates.types.PublicKey) :
    Except String (crates.types.ExtendedAddr × crates.types.Proof) := do
  let multiSigAddress ← crates.keys.multiSigAddressNew [publicKey] publicKey 1
  match ← crates.keys.generateProof multiSigAddress [publicKey] with
  | none =>
    throw (crates.keys.clientError "InvalidInput" "Unable to generate merkle proof" none)
  | some proof => return (crates.keys.extendedAddrFrom multiSigAddress, proof)

def new (privateKey : crates.types.PrivateKey) (publicKey : crates.types.PublicKey) :
    Except String (KeyPairSigner crates.types) := do
  let (_, proof) ← generateExtendedAddrAndProof crates publicKey
  return { proof := proof, privateKey := privateKey }

def messageToSign (message : Buffer) : Except String crates.types.Message :=
  match crates.keys.messageFromSlice message with
  | .ok message => .ok message
  | .error err => .error (crates.keys.clientError "DeserializationError"
      "Unable to deserialize message to sign" (some err))

variable (signer : KeyPairSigner crates.types) (message : Buffer)

def sign : Except String crates.types.RecoverableSignature := do
  let signMessage ← messageToSign crates message
  return crates.keys.signRecoverable signMessage signer.privateKey

def schnorrSign : Except String crates.types.SchnorrSignature := do
  let signMessage ← messageToSign crates message
  return crates.keys.schnorrSign signMessage signer.privateKey

def schnorrSignTxid : Except String crates.types.TxInWitness := do
  let signature ← signer.schnorrSign crates message
  return crates.transactions.treeSig signature signer.proof

end KeyPairSigner
end ThalerNodelib.FunctionTypes
