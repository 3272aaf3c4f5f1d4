import Mathlib.Data.List.Sort
import ThalerNodelib.NativeFromCrates

/-!
The multi-sig functions of the native module, over the builder of client-core
that holds the keys, nonces and signatures of a session. A session is restored
from its bytes on every call and written back when the call returns.
-/
namespace ThalerNodelib.NativeMultiSig

open Js Native Network Crates FunctionTypes NativeFromCrates

/-- `MultiSigBuilder` of client-core, and keys and signatures as `verify` takes
them. What changes a session returns the session that it leaves. -/
structure MultiSigCrate (types : ChainTypes) where
  Session : Type
  new : H256 → List types.PublicKey → types.PublicKey → types.PrivateKey → Except String Session
  toIncomplete : Session → Buffer
  fromIncompleteInsecure : Buffer → Except String Session
  nonceCommitment : Session → Except String (H256 × Session)
  addNonceCommitment : Session → types.PublicKey → H256 → Except String Session
  nonce : Session → Except String (H256 × Session)
  addNonce : Session → types.PublicKey → H256 → Except String Session
  partialSignature : Session → Except String (H256 × Session)
  addPartialSignature : Session → types.PublicKey → H256 → Except String Session
  signature : Session → Except String types.SchnorrSignature
  serializeDefault : types.SchnorrSignature → Buffer
  schnorrSignatureFromDefault : Buffer → Except String types.SchnorrSignature
  /-- `Ord` of public keys, by which `verify` sorts them. -/
  publicKeyOrd : LinearOrder types.PublicKey
  /-- The key of `PublicKey::combine`, which may depend on the order of the keys. -/
  combine : List types.PublicKey → Except String types.PublicKey
  schnorrVerify : types.Message → types.SchnorrSignature → types.PublicKey → Except String Unit

/-- `{:?}` of a vector of bytes. -/
def debugBytes (bytes : Buffer) : String :=
  "[" ++ ", ".intercalate (bytes.map fun b => Nat.repr b.toNat) ++ "]"

/-- The bytes of a hash, if there are 32. -/
def h256 (bytes : Buffer) : Except JsError H256 :=
  if h : bytes.length = 32 then .ok ⟨bytes, h⟩
  else .error (.error
    s!"input hash should be a hex string of 32 bytes, {debugBytes bytes} is {bytes.length} bytes")

def h256StrArgument (text : String) : Except JsError H256 := do
  h256 (← chainNeon (hexDecode text) "input hash is not a valid hex string")

def h256BufferArgument (bytes : Buffer) : Except JsError H256 := h256 bytes

variable (crates : Crates) (multiSig : MultiSigCrate crates.types)

/-- One entry of a vector of public keys: other than a single key it is read
from its hex. -/
def publicKeyEntry (publicKey : Option Buffer) : Except JsError crates.types.PublicKey := do
  let publicKey ← downcastBuffer crates publicKey "Unable to downcast public key"
  chainNeon (crates.keys.publicKeyFromStr (hexEncodeUpper publicKey))
    "Unable to deserialize public key"

def publicKeyVectorArgument (publicKeys : List (Option Buffer)) :
    Except JsError (List crates.types.PublicKey) :=
  publicKeys.mapM (publicKeyEntry crates)

/-- The number of signers as a `usize`. -/
def castUsize (x : JsNumber) : ℕ := x.toUnsigned 64

def createAddress (publicKeys : List (Option Buffer)) (selfPublicKey : Option Buffer)
    (requiredSigners : JsNumber) (network : String) : Except JsError String := do
  let publicKeys ← publicKeyVectorArgument crates publicKeys
  let selfPublicKey ← publicKeyArgument crates (← bufferArgument crates selfPublicKey)
  let network ← networkFromStr network
  let multiSigAddress ← chainNeon
    (crates.keys.multiSigAddressNew publicKeys selfPublicKey (castUsize requiredSigners))
    "Unable to create MultiSig address"
  chainNeon (crates.keys.toCro (crates.keys.extendedAddrFrom multiSigAddress) network)
    "Unable to convert to CRO address"

def newSession (message : String) (signerPublicKeys : List (Option Buffer))
    (selfPublicKey selfPrivateKey : Option Buffer) : Except JsError Buffer := do
  let message ← h256StrArgument message
  let signerPublicKeys ← publicKeyVectorArgument crates signerPublicKeys
  let selfPublicKey ← publicKeyArgument crates (← bufferArgument crates selfPublicKey)
  let selfPrivateKey ← privateKeyArgument crates (← bufferArgument crates selfPrivateKey)
  let session ← chainNeon (multiSig.new message signerPublicKeys selfPublicKey selfPrivateKey)
    "Unable to create new MultiSigBuilder"
  return multiSig.toIncomplete session

def restore (incompleteSession : Buffer) : Except JsError multiSig.Session :=
  chainNeon (multiSig.fromIncompleteInsecure incompleteSession)
    "Unable to restore the incomplete session"

/-- What the functions share that generate a value. -/
def generate (value : multiSig.Session → Except String (H256 × multiSig.Session))
    (message : String) (incompleteSession : Buffer) : Except JsError (Buffer × Buffer) := do
  let session ← restore crates multiSig incompleteSession
  let (value, session) ← chainNeon (value session) message
  return (value.val, multiSig.toIncomplete session)

/-- What the functions share that add a value of another signer. -/
def add (value : multiSig.Session → crates.types.PublicKey → H256 →
      Except String multiSig.Session) (message : String) (incompleteSession : Buffer)
    (publicKey : Option Buffer) (bytes : Buffer) : Except JsError Buffer := do
  let session ← restore crates multiSig incompleteSession
  let publicKey ← publicKeyArgument crates (← bufferArgument crates publicKey)
  let bytes ← h256BufferArgument bytes
  let session ← chainNeon (value session publicKey bytes) message
  return multiSig.toIncomplete session

def generateNonceCommitment : Buffer → Except JsError (Buffer × Buffer) :=
  generate crates multiSig multiSig.nonceCommitment "Unable to process nonce commitment"

def addNonceCommitment : Buffer → Option Buffer → Buffer → Except JsError Buffer :=
  add crates multiSig multiSig.addNonceCommitment "Unable to add nonce commitment"

def generateNonce : Buffer → Except JsError (Buffer × Buffer) :=
  generate crates multiSig multiSig.nonce "Unable to process nonce"

def addNonce : Buffer → Option Buffer → Buffer → Except JsError Buffer :=
  add crates multiSig multiSig.addNonce "Unable to add nonce"

def partialSign : Buffer → Except JsError (Buffer × Buffer) :=
  generate crates multiSig multiSig.partialSignature "Unable to partially sign"

def addPartialSignature : Buffer → Option Buffer → Buffer → Except JsError Buffer :=
  add crates multiSig multiSig.addPartialSignature "Unable to add partial signature"

def sign (incompleteSession : Buffer) : Except JsError Buffer := do
  let session ← restore crates multiSig incompleteSession
  let signature ← chainNeon (multiSig.signature session) "Unable to create signature"
  return multiSig.serializeDefault signature

/-- `public_keys.sort()`. -/
def sortKeys (publicKeys : List crates.types.PublicKey) : List crates.types.PublicKey :=
  letI := multiSig.publicKeyOrd
  publicKeys.mergeSort fun a b => decide (a ≤ b)

def verify (signature : Buffer) (message : String) (publicKeys : List (Option Buffer)) :
    Except JsError Bool := do
  let signature ← chainNeon (multiSig.schnorrSignatureFromDefault signature)
    "Unable to restore signature"
  let message ← h256StrArgument message
  let message ← chainNeon (crates.keys.messageFromSlice message.val) "Unable to form message"
  let publicKeys ← publicKeyVectorArgument crates publicKeys
  let combinedPublicKey ← chainNeon (multiSig.combine (sortKeys crates multiSig publicKeys))
    "Unable combine public keys"
  return (multiSig.schnorrVerify message signature combinedPublicKey).isOk

/-- The functions as sessions call them, with buffers for the keys. -/
def multiSigModule : MultiSigModule where
  createAddress publicKeys := createAddress crates (publicKeys.map some)
  newSession message signerPublicKeys :=
    newSession crates multiSig message (signerPublicKeys.map some)
  generateNonceCommitment := generateNonceCommitment crates multiSig
  addNonceCommitment := addNonceCommitment crates multiSig
  generateNonce := generateNonce crates multiSig
  addNonce session publicKey := addNonce crates multiSig session (some publicKey)
  partialSign := partialSign crates multiSig
  addPartialSignature session publicKey :=
    addPartialSignature crates multiSig session (some publicKey)
  sign := sign crates multiSig
  verify signature message publicKeys :=
    verify crates multiSig signature message (publicKeys.map some)

/-- The native module with its multi-sig functions. -/
def nativeModule : NativeModule :=
  NativeFromCrates.nativeModule crates (multiSigModule crates multiSig)

variable {crates} {multiSig}

/-- An address is made of the keys of the list, one's own key and the number cast. -/
theorem createAddress_eq_ok {entries : List (Option Buffer)} {own : Buffer}
    {requiredSigners : JsNumber} {network text : String} :
    createAddress crates entries (some own) requiredSigners network = .ok text ↔
      ∃ keys key named address, publicKeyVectorArgument crates entries = .ok keys ∧
        crates.keys.publicKeyDeserializeFrom own = .ok key ∧ networkFromStr network = .ok named ∧
        crates.keys.multiSigAddressNew keys key (castUsize requiredSigners) = .ok address ∧
        crates.keys.toCro (crates.keys.extendedAddrFrom address) named = .ok text := by
  constructor
  · intro h
    obtain ⟨keys, hkeys, h⟩ := bind_eq_ok.mp h
    obtain ⟨_, hown, h⟩ := bind_eq_ok.mp h
    obtain rfl := Except.ok.inj hown
    obtain ⟨key, hkey, h⟩ := bind_eq_ok.mp h
    obtain ⟨named, hnamed, h⟩ := bind_eq_ok.mp h
    obtain ⟨address, haddress, h⟩ := bind_eq_ok.mp h
    exact ⟨keys, key, named, address, hkeys, chainNeon_eq_ok.mp hkey, hnamed,
      chainNeon_eq_ok.mp haddress, chainNeon_eq_ok.mp h⟩
  · intro h
    obtain ⟨keys, key, named, address, hkeys, hkey, hnamed, haddress, htext⟩ := h
    exact bind_eq_ok.mpr ⟨keys, hkeys, bind_eq_ok.mpr ⟨own, rfl, bind_eq_ok.mpr ⟨key,
      chainNeon_eq_ok.mpr hkey, bind_eq_ok.mpr ⟨named, hnamed, bind_eq_ok.mpr ⟨address,
        chainNeon_eq_ok.mpr haddress, chainNeon_eq_ok.mpr htext⟩⟩⟩⟩⟩

/-! The order of the keys. -/

/-- Sorting forgets the order of a list. -/
theorem sortKeys_perm {keys keys' : List crates.types.PublicKey} (h : keys.Perm keys') :
    sortKeys crates multiSig keys = sortKeys crates multiSig keys' := by
  let _ := multiSig.publicKeyOrd
  have hsorted : ∀ keys : List crates.types.PublicKey,
      (sortKeys crates multiSig keys).Pairwise fun a b => decide (a ≤ b) = true := by
    intro keys
    apply List.pairwise_mergeSort
    · intro a b c hab hbc
      simp only [decide_eq_true_eq] at hab hbc ⊢
      exact hab.trans hbc
    · intro a b
      simpa only [Bool.or_eq_true, decide_eq_true_eq] using le_total a b
  have hperm : (sortKeys crates multiSig keys).Perm (sortKeys crates multiSig keys') :=
    ((List.mergeSort_perm ..).trans h).trans (List.mergeSort_perm ..).symm
  apply hperm.eq_of_pairwise _ (hsorted keys) (hsorted keys')
  intro a b _ _ hab hba
  simp only [decide_eq_true_eq] at hab hba
  exact le_antisymm hab hba

end ThalerNodelib.NativeMultiSig
