import ThalerNodelib.Native

/-!
Key pairs. The fields are private and the constructors are `new KeyPair()`,
`fromPublicKey` and `fromPrivateKey`, so a key pair is one of three kinds; the
last field of the structure says which.
-/
namespace ThalerNodelib.KeyPairs

open Js Native

inductive Origin (native : NativeModule) :
    Option Buffer → Option Buffer → Option Buffer → Prop
  | new : Origin native none none none
  | publicKey {anyPublicKey publicKey compressedPublicKey : Buffer} :
      native.keyPair.verifyPublicKey anyPublicKey = .ok () →
      native.keyPair.getPublicKeysFromAnyPublicKey anyPublicKey =
        .ok (publicKey, compressedPublicKey) →
      Origin native (some publicKey) (some compressedPublicKey) none
  | privateKey {privateKey publicKey compressedPublicKey : Buffer} :
      native.keyPair.verifyPrivateKey privateKey = .ok () →
      native.keyPair.getPublicKeysFromPrivateKey privateKey =
        .ok (publicKey, compressedPublicKey) →
      Origin native (some publicKey) (some compressedPublicKey) (some privateKey)

structure KeyPair (native : NativeModule) where
  innerPublicKey : Option Buffer
  innerCompressedPublicKey : Option Buffer
  innerPrivateKey : Option Buffer
  origin : Origin native innerPublicKey innerCompressedPublicKey innerPrivateKey

namespace KeyPair

variable {native}

/-- `new KeyPair()`. -/
def new : KeyPair native := ⟨none, none, none, .new⟩

def fromPublicKey (native : NativeModule) (anyPublicKey : Buffer) :
    Except JsError (KeyPair native) :=
  match hverify : native.keyPair.verifyPublicKey anyPublicKey with
  | .error e => .error e
  | .ok () =>
    match hkeys : native.keyPair.getPublicKeysFromAnyPublicKey anyPublicKey with
    | .error e => .error e
    | .ok (publicKey, compressedPublicKey) =>
      .ok ⟨some publicKey, some compressedPublicKey, none, .publicKey hverify hkeys⟩

def fromPrivateKey (native : NativeModule) (privateKey : Buffer) :
    Except JsError (KeyPair native) :=
  match hverify : native.keyPair.verifyPrivateKey privateKey with
  | .error e => .error e
  | .ok () =>
    match hkeys : native.keyPair.getPublicKeysFromPrivateKey privateKey with
    | .error e => .error e
    | .ok (publicKey, compressedPublicKey) =>
      .ok ⟨some publicKey, some compressedPublicKey, some privateKey, .privateKey hverify hkeys⟩

def hasPublicKey (keyPair : KeyPair native) : Bool := keyPair.innerPublicKey.isSome

def hasPrivateKey (keyPair : KeyPair native) : Bool := keyPair.innerPrivateKey.isSome

def publicKey (keyPair : KeyPair native) : Option Buffer := keyPair.innerPublicKey

def compressedPublicKey (keyPair : KeyPair native) : Option Buffer :=
  keyPair.innerCompressedPublicKey

def privateKey (keyPair : KeyPair native) : Option Buffer := keyPair.innerPrivateKey

def toObject (keyPair : KeyPair native) : NativeKeyPair where
  privateKey := keyPair.privateKey
  compressedPublicKey := keyPair.compressedPublicKey
  publicKey := keyPair.publicKey

/-- A key pair with a private key was made by `fromPrivateKey`. -/
theorem hasPrivateKey_origin {keyPair : KeyPair native} (h : keyPair.hasPrivateKey = true) :
    ∃ privateKey publicKey compressedPublicKey : Buffer,
      keyPair.innerPrivateKey = some privateKey ∧ keyPair.innerPublicKey = some publicKey ∧
      native.keyPair.verifyPrivateKey privateKey = .ok () ∧
      native.keyPair.getPublicKeysFromPrivateKey privateKey =
        .ok (publicKey, compressedPublicKey) := by
  obtain ⟨pk, cpk, sk, horigin⟩ := keyPair
  cases horigin with
  | new => cases h
  | publicKey => cases h
  | privateKey hverify hkeys => exact ⟨_, _, _, rfl, rfl, hverify, hkeys⟩

end KeyPair

/-- A key pair of the sample native module. -/
def Sample.keyPair : KeyPair Native.Sample.module :=
  ⟨some [4, 7], some [2, 7], some [7], .privateKey rfl rfl⟩

end ThalerNodelib.KeyPairs
