import ThalerNodelib.KeyPairs
import ThalerNodelib.Runs

/-!
The session of one party of a multi-sig signing. The native session is a buffer
that each successful native call replaces; beside it the object caches the
values it was given for the other signers and the values it generated. A buffer
that a caller hands over is found again by its identity, not by its bytes.
-/
namespace ThalerNodelib.MultiSig

open Js Native KeyPairs Runs

/-- A buffer as an object: `indexOf` compares the references. -/
structure BufferObject where
  ref : ℕ
  bytes : Buffer
  deriving DecidableEq, Repr

/-- An argument of a public method; `none` stands for what is not a buffer. -/
abbrev Argument := Option BufferObject

/-- The three rounds of values that co-signers send each other. -/
inductive Phase
  | nonceCommitment
  | nonce
  | partialSignature
  deriving DecidableEq, Repr

structure MultiSigSession (native : NativeModule) where
  message : String
  message_nonempty : message ≠ ""
  keyPair : KeyPair native
  signerPublicKeys : List Buffer
  two_signers : 2 ≤ signerPublicKeys.length
  session : Buffer
  nonceCommitment : Option Buffer
  coSignerNonceCommitments : List BufferObject
  nonce : Option Buffer
  coSignerNonces : List BufferObject
  partialSignature : Option Buffer
  coSignerSignatures : List BufferObject
  signature : Option Buffer

variable (native : NativeModule)

abbrev Session := MultiSigSession native

/-- A private key that the key pair lacks reaches the native module as `undefined`. -/
def new (message : String) (selfKeyPair : KeyPair native) (signerPublicKeys : List Buffer) :
    Except JsError (Session native) :=
  if hmessage : message = "" then .error (.argumentError "message" "")
  else if hsigners : 2 ≤ signerPublicKeys.length then
    match native.multiSig.newSession message signerPublicKeys selfKeyPair.publicKey
      selfKeyPair.privateKey with
    | .error e => .error e
    | .ok session => .ok {
        message := message
        message_nonempty := hmessage
        keyPair := selfKeyPair
        signerPublicKeys := signerPublicKeys
        two_signers := hsigners
        session := session
        nonceCommitment := none
        coSignerNonceCommitments := []
        nonce := none
        coSignerNonces := []
        partialSignature := none
        coSignerSignatures := []
        signature := none }
  else .error (.argumentError "signerPublicKeys" "")

namespace MultiSigSession

variable {native}

/-- The values of a phase that were added for the other signers. -/
def cached (s : Session native) : Phase → List BufferObject
  | .nonceCommitment => s.coSignerNonceCommitments
  | .nonce => s.coSignerNonces
  | .partialSignature => s.coSignerSignatures

/-- `indexOf(value) > -1`. -/
def hasThisSigner (s : Session native) (phase : Phase) (value : BufferObject) : Bool :=
  (s.cached phase).any fun added => added.ref == value.ref

def push (s : Session native) (phase : Phase) (value : BufferObject) : Session native :=
  match phase with
  | .nonceCommitment =>
    { s with coSignerNonceCommitments := s.coSignerNonceCommitments ++ [value] }
  | .nonce => { s with coSignerNonces := s.coSignerNonces ++ [value] }
  | .partialSignature => { s with coSignerSignatures := s.coSignerSignatures ++ [value] }

def totalExternalCoSigners (s : Session native) : ℕ := s.signerPublicKeys.length - 1

def hasCollectedAll (s : Session native) (phase : Phase) : Bool :=
  (s.cached phase).length == s.totalExternalCoSigners

def hasCollectedAllNonceCommitments (s : Session native) : Bool :=
  s.hasCollectedAll .nonceCommitment

def hasColletedAllNonces (s : Session native) : Bool := s.hasCollectedAll .nonce

def hasColletedAllPartialSignatures (s : Session native) : Bool :=
  s.hasCollectedAll .partialSignature

def getRawSession (s : Session native) : Except JsError Buffer := do
  ow (check (decide (0 < s.session.length)) "Expected session to be not emtpy") "session"
  return s.session

def getMessage (s : Session native) : Except JsError String := do
  ow (check (s.message != "") "") "message"
  return s.message

def verify (s : Session native) (signature : Option Buffer) : Except JsError Bool :=
  match signature <|> s.signature with
  | none => .error (.error "Current signature is not ready for verification")
  | some signature => native.multiSig.verify signature s.message s.signerPublicKeys

end MultiSigSession

def owBuffer (argument : Argument) (label : String) : Except JsError BufferObject :=
  match argument with
  | some object => .ok object
  | none => .error (.argumentError label "")

/-- Generates a value with the native session, which it replaces. -/
def generate (transition : Buffer → Except JsError (Buffer × Buffer))
    (store : Buffer → Session native → Session native) : Method (Session native) Buffer := do
  let (value, incompleteSession) ← call (transition (← get).session)
  modify (store value)
  modify fun s => { s with session := incompleteSession }
  return value

/-- Adds a value to the native session and to the cache of its phase. -/
def add (phase : Phase) (duplicate : String) (transition : Buffer → Except JsError Buffer)
    (value : BufferObject) : Method (Session native) Buffer := do
  if (← get).hasThisSigner phase value then
    throw (.error duplicate)
  let session ← call (transition (← get).session)
  modify fun s => { s with session := session }
  modify fun s => s.push phase value
  return (← get).session

def generateNonceCommitment : Method (Session native) Buffer :=
  generate native native.multiSig.generateNonceCommitment
    fun value s => { s with nonceCommitment := some value }

/-- The one addition that does not check the public key. -/
def addNonceCommitment (coSignerPublicKey coSignerNonceCommitment : Argument) :
    Method (Session native) Buffer := do
  let value ← call (owBuffer coSignerNonceCommitment "coSignerNonceCommitment")
  add native .nonceCommitment "This co-signer's nonce commitment has already been added"
    (fun session => native.multiSig.addNonceCommitment session
      (coSignerPublicKey.map BufferObject.bytes) value.bytes) value

def generateNonce : Method (Session native) Buffer := do
  if !(← get).hasCollectedAllNonceCommitments then
    throw (.error "Nonce can be generated only after all co-signer's nonce commitment are added")
  generate native native.multiSig.generateNonce fun value s => { s with nonce := some value }

def addNonce (coSignerPublicKey coSignerNonce : Argument) : Method (Session native) Buffer := do
  let publicKey ← call (owBuffer coSignerPublicKey "coSignerPublicKey")
  let value ← call (owBuffer coSignerNonce "coSignerNonce")
  add native .nonce "This co-signer's nonce has already been added"
    (fun session => native.multiSig.addNonce session publicKey.bytes value.bytes) value

def partialSign : Method (Session native) Buffer := do
  if !(← get).hasColletedAllNonces then
    throw (.error "Session can be partially signed only after all co-signer's nonces are added")
  generate native native.multiSig.partialSign
    fun value s => { s with partialSignature := some value }

def addPartialSignature (coSignerPublicKey coSignerSignature : Argument) :
    Method (Session native) Buffer := do
  let publicKey ← call (owBuffer coSignerPublicKey "coSignerPublicKey")
  let value ← call (owBuffer coSignerSignature "coSignerSignature")
  add native .partialSignature "This co-signer's signature has already been added"
    (fun session => native.multiSig.addPartialSignature session publicKey.bytes value.bytes) value

def sign : Method (Session native) Buffer := do
  if !(← get).hasColletedAllPartialSignatures then
    throw (.error
      "Session can be final signed only after all co-signer's partial signatures are added")
  let signature ← call (native.multiSig.sign (← get).session)
  modify fun s => { s with signature := some signature }
  return signature

inductive Call
  | getRawSession
  | getMessage
  | generateNonceCommitment
  | addNonceCommitment (coSignerPublicKey coSignerNonceCommitment : Argument)
  | generateNonce
  | addNonce (coSignerPublicKey coSignerNonce : Argument)
  | partialSign
  | addPartialSignature (coSignerPublicKey coSignerSignature : Argument)
  | sign
  | verify (signature : Option Buffer)
  deriving DecidableEq

inductive Value
  | buffer (value : Buffer)
  | text (value : String)
  | flag (value : Bool)
  deriving DecidableEq

def machine : Machine JsError (Session native) Call Value
  | .getRawSession => return .buffer (← call (← get).getRawSession)
  | .getMessage => return .text (← call (← get).getMessage)
  | .generateNonceCommitment => return .buffer (← generateNonceCommitment native)
  | .addNonceCommitment publicKey value => return .buffer (← addNonceCommitment native publicKey value)
  | .generateNonce => return .buffer (← generateNonce native)
  | .addNonce publicKey value => return .buffer (← addNonce native publicKey value)
  | .partialSign => return .buffer (← partialSign native)
  | .addPartialSignature publicKey value => return .buffer (← addPartialSignature native publicKey value)
  | .sign => return .buffer (← sign native)
  | .verify signature => return .flag (← call ((← get).verify signature))

end ThalerNodelib.MultiSig
