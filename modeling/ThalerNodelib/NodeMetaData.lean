import ThalerNodelib.Json
import ThalerNodelib.PublicExport

/-!
The meta data of a node crosses to the native module as a JSON text. The text
reads as the object that `parseNodeMetaDataForNative` makes, whatever characters
the strings have, so that meta data which differ otherwise than in an empty
contact give different texts.
-/
namespace ThalerNodelib.PublicBuilders

open Js Json

theorem readsChar_control {c : Char} (h : c.toNat < 32) :
    ReadsChar ("\\u00" ++ hexEncode [UInt8.ofNat c.toNat]).toList c := by
  have hbyte : (UInt8.ofNat c.toNat).toNat = c.toNat := by
    rw [UInt8.toNat_ofNat']
    omega
  have hhex : (hexEncode [UInt8.ofNat c.toNat]).toList =
      [hexDigit false (c.toNat / 16), hexDigit false (c.toNat % 16)] := by
    rw [hexEncode, hexChars, List.flatMap_singleton, hbyte, String.toList_ofList]
  have hzero : hexValue '0' = some 0 := by decide
  have hhigh := hexValue_hexDigit false (show c.toNat / 16 < 16 by omega)
  have hlow := hexValue_hexDigit false (show c.toNat % 16 < 16 by omega)
  have hvalue : 16 * (16 * (16 * 0 + 0) + c.toNat / 16) + c.toNat % 16 = c.toNat := by omega
  have hunicode : unicode '0' '0' (hexDigit false (c.toNat / 16))
      (hexDigit false (c.toNat % 16)) = some c := by
    simp only [unicode, hzero, hhigh, hlow, bind, Option.bind, hvalue, Char.ofNat_toNat]
    exact if_pos c.valid
  have hslash : "\\u00".toList = ['\\', 'u', '0', '0'] := rfl
  rw [String.toList_append, hhex, hslash]
  exact readsChar_unicode hunicode

theorem eq_ofNat {c : Char} {n : ℕ} (h : c.toNat = n) : c = Char.ofNat n := by
  rw [← h, Char.ofNat_toNat]

theorem readsChar_jsonCharacter (c : Char) : ReadsChar (jsonCharacter c).toList c := by
  unfold jsonCharacter
  split_ifs with hquote hslash hnewline hreturn htab hback hfeed hcontrol
  · exact hquote ▸ readsChar_escaped (by decide) (by decide)
  · exact hslash ▸ readsChar_escaped (by decide) (by decide)
  · exact hnewline ▸ readsChar_escaped (by decide) (by decide)
  · exact hreturn ▸ readsChar_escaped (by decide) (by decide)
  · exact htab ▸ readsChar_escaped (by decide) (by decide)
  · exact eq_ofNat hback ▸ readsChar_escaped (by decide) (by decide)
  · exact eq_ofNat hfeed ▸ readsChar_escaped (by decide) (by decide)
  · exact readsChar_control hcontrol
  · rw [String.toList_singleton]
    exact readsChar_self hquote hslash hcontrol

theorem readsAs_jsonString (text : String) : ReadsAs (jsonString text) (.string text) := by
  apply readsAs_string readsChar_jsonCharacter
  simp [jsonString, String.toList_join, List.flatMap_map]

theorem readsMember_jsonProperty (name : String) {text : String} {value : Json.Value}
    (h : ReadsAs text value) : ReadsMember (jsonProperty name text) (name, value) :=
  ⟨jsonString name, text, rfl, readsAs_jsonString name, h⟩

/-- `parseNodeMetaDataForNative`, without the properties that are `undefined`. -/
def parseNodeMetaDataForNative (value : NodeMetaData) : Json.Value :=
  let securityContact := value.securityContact.filter fun contact => contact != ""
  .object ([("name", .string value.name)] ++
    (securityContact.map fun contact => ("security_contact", .string contact)).toList ++
    [("consensus_pubkey", .object [
        ("type", .string value.consensusPublicKey.type),
        ("value", .string value.consensusPublicKey.value)]),
      ("confidential_init", .object [("cert", .string "RklYTUU=")])])

theorem readsAs_nativeNodeMetaData (value : NodeMetaData) :
    ReadsAs (nativeNodeMetaData value) (parseNodeMetaDataForNative value) := by
  have hname := readsMember_jsonProperty "name" (readsAs_jsonString value.name)
  have htype := readsMember_jsonProperty "type" (readsAs_jsonString value.consensusPublicKey.type)
  have hvalue :=
    readsMember_jsonProperty "value" (readsAs_jsonString value.consensusPublicKey.value)
  have hcert := readsMember_jsonProperty "cert" (readsAs_jsonString "RklYTUU=")
  have hkey := readsMember_jsonProperty "consensus_pubkey"
    (readsAs_object (.cons htype (.cons hvalue .nil)))
  have hinit := readsMember_jsonProperty "confidential_init" (readsAs_object (.cons hcert .nil))
  unfold nativeNodeMetaData parseNodeMetaDataForNative
  cases value.securityContact.filter fun contact => contact != "" with
  | none => exact readsAs_object (.cons hname (.cons hkey (.cons hinit .nil)))
  | some contact =>
    have hcontact := readsMember_jsonProperty "security_contact" (readsAs_jsonString contact)
    exact readsAs_object (.cons hname (.cons hcontact (.cons hkey (.cons hinit .nil))))

/-- The contact that the native module gets. -/
def contact (value : NodeMetaData) : Option String :=
  value.securityContact.filter fun contact => contact != ""

/-- Equal up to a contact that is missing or empty. -/
def SameMetaData (a b : NodeMetaData) : Prop :=
  a.name = b.name ∧ contact a = contact b ∧ a.consensusPublicKey = b.consensusPublicKey

theorem nativeNodeMetaData_congr {a b : NodeMetaData} (h : SameMetaData a b) :
    nativeNodeMetaData a = nativeNodeMetaData b := by
  obtain ⟨hname, hcontact, hkey⟩ := h
  unfold contact at hcontact
  simp only [nativeNodeMetaData, hname, hcontact, hkey]

theorem sameMetaData_of_object {a b : NodeMetaData}
    (h : parseNodeMetaDataForNative a = parseNodeMetaDataForNative b) : SameMetaData a b := by
  obtain ⟨name, securityContact, type, value⟩ := a
  obtain ⟨name', securityContact', type', value'⟩ := b
  unfold parseNodeMetaDataForNative at h
  unfold SameMetaData contact
  cases hcontact : securityContact.filter fun contact => contact != "" <;>
    cases hcontact' : securityContact'.filter fun contact => contact != "" <;>
      simp_all

/-- What the texts of node meta data say. -/
structure MetaDataTexts : Prop where
  reads : ∀ value, parse (nativeNodeMetaData value) = some (parseNodeMetaDataForNative value)
  same_iff : ∀ a b, nativeNodeMetaData a = nativeNodeMetaData b ↔ SameMetaData a b

/-- The text of node meta data reads as the object that was stringified, and only
the same meta data give one text. -/
theorem node_meta_data_texts : MetaDataTexts where
  reads value := (readsAs_nativeNodeMetaData value).parse_eq
  same_iff a b := by
    constructor
    · intro h
      have ha := readsAs_nativeNodeMetaData a
      rw [h] at ha
      exact sameMetaData_of_object (ha.unique (readsAs_nativeNodeMetaData b))
    · exact nativeNodeMetaData_congr

end ThalerNodelib.PublicBuilders
