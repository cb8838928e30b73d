import ZigpySpinel.Python.CaptureCheck
import ZigpySpinel.Python.Proofs.ApsCodec
import ZigpySpinel.Python.Proofs.Ieee802154Codec
import ZigpySpinel.Python.Proofs.NwkCcm

/-!
# What the script accepts

Whether a packet passes the script does not depend on the order of the keys, although what is
decrypted first moves its key to the front: trying a key raises something else than
`DecryptionFailure` on the same frames for every key, and the assertion behind the decryption
fails exactly for payloads without a whole tag.
-/

namespace ZigpySpinel.Python
open Lib Zigbee

/-! ## Exceptions that are no failure of a key -/

/-- The call does not say that the key is wrong. -/
def NotFailure {α : Type} (x : Except PyException α) : Prop :=
  ∀ message, x ≠ .error (.decryptionFailure message)

/-- The call says whether the key is wrong. -/
def Decides {α : Type} (x : Except PyException α) : Prop :=
  (∃ a, x = .ok a) ∨ ∃ message, x = .error (.decryptionFailure message)

section Exceptions

variable {α β : Type}

theorem notFailure_ok (a : α) : NotFailure (.ok a) := by
  intro message h
  cases h

theorem NotFailure.bind {x : Except PyException α} {f : α → Except PyException β}
    (hx : NotFailure x) (hf : ∀ a, NotFailure (f a)) : NotFailure (x >>= f) := by
  cases x with
  | error e =>
    intro message h
    cases h
    exact hx message rfl
  | ok a => exact hf a

theorem NotFailure.foldlM {f : β → α → Except PyException β} (hf : ∀ b a, NotFailure (f b a))
    (items : List α) (b : β) : NotFailure (items.foldlM f b) := by
  induction items generalizing b with
  | nil => exact notFailure_ok b
  | cons a items ih => exact (hf b a).bind ih

theorem notFailure_toBytesBig (n length : Nat) : NotFailure (toBytesBig n length) := by
  intro message h
  unfold toBytesBig at h
  split at h <;> cases h

theorem notFailure_xor (a b : List UInt8) : NotFailure (xor a b) := by
  intro message h
  unfold xor at h
  split at h <;> cases h

theorem notFailure_orRaise {o : Option α} {e : PyException}
    (he : ∀ message, e ≠ .decryptionFailure message) : NotFailure (orRaise o e) := by
  intro message h
  cases o with
  | none =>
    cases h
    exact he message rfl
  | some a => cases h

/-- A sequence of calls decides something only behind its first call. -/
theorem Decides.of_bind {x : Except PyException α} {f : α → Except PyException β}
    (h : Decides (x >>= f)) (hx : NotFailure x) : ∃ a, x = .ok a ∧ Decides (f a) := by
  cases x with
  | ok a => exact ⟨a, rfl, h⟩
  | error e =>
    rcases h with ⟨b, h⟩ | ⟨message, h⟩
    · cases h
    · cases h
      exact absurd rfl (hx message)

end Exceptions

/-! ## Trying a key -/

namespace ZigbeeNwkFrame

variable (encryptBlock : Key → Block → Block)

theorem notFailure_encryptWith (L M : Nat) (key : Key) (nonce macTag plaintext : List UInt8) :
    NotFailure (encryptWith encryptBlock L M key nonce macTag plaintext) :=
  (NotFailure.foldlM (fun _ blockNum => (notFailure_toBytesBig blockNum L).bind fun _ =>
    (notFailure_xor _ _).bind fun _ => notFailure_ok _) _ _).bind fun _ => notFailure_ok _

theorem notFailure_computeMac (frame : ZigbeeNwkFrame) (L M : Nat) (key : Key)
    (plaintext : List UInt8) (auxHeader : ZigbeeNwkAuxHeader) (nonce : List UInt8) :
    NotFailure (frame.computeMac encryptBlock L M key plaintext auxHeader nonce) := by
  have hroute : NotFailure frame.nwkHeader.serializeSourceRoute := by
    unfold ZigbeeNwkHeader.serializeSourceRoute
    split
    · exact (notFailure_orRaise (by simp)).bind fun _ =>
        (notFailure_orRaise (by simp)).bind fun _ => notFailure_ok _
    · exact notFailure_ok _
  have hheader : NotFailure frame.nwkHeader.serialize := hroute.bind fun _ => notFailure_ok _
  have haux : NotFailure auxHeader.serialize :=
    (notFailure_orRaise (by simp)).bind fun _ => notFailure_ok _
  exact hheader.bind fun _ => haux.bind fun _ => (notFailure_toBytesBig _ L).bind fun _ =>
    (notFailure_toBytesBig _ L).bind fun _ => notFailure_ok _

theorem length_padToMultipleOf16 (data : List UInt8) :
    data.length ≤ (padToMultipleOf16 data).length ∧ (padToMultipleOf16 data).length % 16 = 0 := by
  unfold padToMultipleOf16
  split
  · rw [List.length_append, List.length_replicate]
    omega
  · omega

/-- The passes so far have written a block each. -/
theorem length_encryptPass {L : Nat} {key : Key} {nonce tagged : List UInt8} (count : Nat)
    {written : List UInt8} (hcount : 16 * count ≤ tagged.length)
    (h : (List.range count).foldlM (encryptPass encryptBlock L key nonce tagged) [] = .ok written) :
    written.length = 16 * count := by
  induction count generalizing written with
  | zero =>
    cases h
    rfl
  | succ count ih =>
    rw [List.range_succ, List.foldlM_append] at h
    obtain ⟨before, hbefore, h⟩ := except_bind_eq_ok.mp h
    obtain ⟨written', hpass, h⟩ := except_bind_eq_ok.mp h
    cases h
    obtain ⟨blockNumBytes, -, hpass⟩ := except_bind_eq_ok.mp hpass
    obtain ⟨block, hxor, hpass⟩ := except_bind_eq_ok.mp hpass
    cases hpass
    have hlen := ih (by omega) hbefore
    have hblock : block.length = 16 := by
      unfold xor at hxor
      split at hxor
      · rename_i hsame
        cases hxor
        rw [length_xorBytes, hsame, List.length_drop, List.length_take]
        omega
      · cases hxor
    rw [List.length_append, hlen, hblock]
    ring

/-- With a tag in front, a text keeps its length. -/
theorem length_encryptWith {L M : Nat} {key : Key} {nonce macTag plaintext tag text : List UInt8}
    (hne : macTag ≠ [])
    (h : encryptWith encryptBlock L M key nonce macTag plaintext = .ok (tag, text)) :
    text.length = plaintext.length := by
  obtain ⟨written, hwritten, h⟩ := except_bind_eq_ok.mp h
  cases h
  obtain ⟨htag, htagBlocks⟩ := length_padToMultipleOf16 macTag
  obtain ⟨htext, htextBlocks⟩ := length_padToMultipleOf16 plaintext
  have hpos := List.length_pos_iff.mpr hne
  have hlen := length_encryptPass encryptBlock _ (by omega) hwritten
  rw [List.length_append] at hlen
  rw [List.length_drop, List.length_take]
  omega

end ZigbeeNwkFrame

/-- The frames that a key can be tried on: there is a source in the auxiliary header, and the
    length of the text fits its field. -/
def EncryptedZigbeeNwkFrame.Tryable (frame : EncryptedZigbeeNwkFrame) : Prop :=
  ∃ auxHeader source, frame.auxHeader = some auxHeader ∧ auxHeader.extendedSource = some source ∧
    frame.payload.length < 65540

section Frames

variable {encryptBlock : Key → Block → Block} {key : Key} {frame : EncryptedZigbeeNwkFrame}

namespace EncryptedZigbeeNwkFrame

/-- What keeps a frame from being tried keeps it from every key. -/
theorem tryable_of_decides (h : Decides (frame.decrypt encryptBlock key)) : frame.Tryable := by
  obtain ⟨⟨L, M⟩, hLM, h⟩ := h.of_bind (by
    intro message h
    unfold ZigbeeNwkFrame.getEncryptionLM at h
    split at h <;> cases h)
  obtain ⟨aux, hmodified, h⟩ := h.of_bind (notFailure_orRaise (by simp))
  obtain ⟨nonce, -, h⟩ := h.of_bind (notFailure_orRaise (by simp))
  obtain ⟨⟨tag, text⟩, hwith, h⟩ :=
    h.of_bind (ZigbeeNwkFrame.notFailure_encryptWith encryptBlock L M key _ _ _)
  obtain ⟨mac, hmac, -⟩ :=
    h.of_bind (ZigbeeNwkFrame.notFailure_computeMac encryptBlock _ L M key text aux nonce)
  obtain ⟨header, -, hmac⟩ := except_bind_eq_ok.mp hmac
  obtain ⟨auxBytes, haux, hmac⟩ := except_bind_eq_ok.mp hmac
  obtain ⟨length, -, hmac⟩ := except_bind_eq_ok.mp hmac
  obtain ⟨textLength, htextLength, -⟩ := except_bind_eq_ok.mp hmac
  obtain ⟨source, hsource, -⟩ := except_bind_eq_ok.mp haux
  cases hauxHeader : frame.auxHeader with
  | none =>
    rw [ZigbeeNwkFrame.getEncryptionLM, hauxHeader] at hLM
    cases hLM
  | some auxHeader =>
    rw [ZigbeeNwkFrame.getEncryptionLM_eq hauxHeader] at hLM
    cases hLM
    rw [ZigbeeNwkFrame.getModifiedAuxHeader_eq hauxHeader] at hmodified
    cases hmodified
    refine ⟨auxHeader, source, hauxHeader, orRaise_eq_ok.mp hsource, ?_⟩
    by_contra hlong
    have htext := ZigbeeNwkFrame.length_encryptWith encryptBlock (List.ne_nil_of_length_pos (by
      rw [List.length_drop]
      omega)) hwith
    rw [List.length_take] at htext
    unfold toBytesBig at htextLength
    split at htextLength
    · omega
    · cases htextLength

/-- A frame that was read and that can be tried is decrypted or its tag is wrong. -/
theorem decides_of_tryable (hwf : frame.WellFormed) (h : frame.Tryable) :
    Decides (frame.decrypt encryptBlock key) := by
  obtain ⟨auxHeader, source, haux, hsource, hlen⟩ := h
  have hheader := ZigbeeNwkHeader.serialize_eq hwf.nwkHeader
  by_cases hnil : frame.payload = []
  · exact .inr ⟨_, decrypt_nil encryptBlock key haux hsource hheader hnil⟩
  · have hsource' : auxHeader.withLevel5.extendedSource = some source := hsource
    have hwith := encryptWith_payload encryptBlock key (nonceOf source auxHeader.withLevel5) hnil hlen
    have hmac := ZigbeeNwkFrame.computeMac_eq_tag encryptBlock key hsource' hheader
      (xorBytes (textOf frame.payload)
        (Ccm.keyStream nwkCcm (encryptBlock key) (nonceOf source auxHeader.withLevel5)
          (((textOf frame.payload).length + 15) / 16))) (by
        rw [length_xorBytes, textOf, List.length_take]
        omega) (nonceOf source auxHeader.withLevel5)
    simp only [decrypt, ZigbeeNwkFrame.getEncryptionLM_eq haux,
      ZigbeeNwkFrame.getModifiedAuxHeader_eq haux, ZigbeeNwkFrame.getNonce_eq hsource, orRaise, hwith,
      hmac, bind, Except.bind]
    split
    · exact .inr ⟨_, rfl⟩
    · exact .inl ⟨_, rfl⟩

/-- The payload of a decrypted frame, and what it is encrypted to. -/
theorem encrypt_of_decrypt {f : DecryptedZigbeeNwkFrame} (hwf : frame.WellFormed)
    (hdecrypt : frame.decrypt encryptBlock key = .ok f) :
    ∃ g, f.encrypt encryptBlock key = .ok g ∧ (g.payload = frame.payload ↔ 4 ≤ frame.payload.length) ∧
      f.payload.length = frame.payload.length - 4 ∧ f.nwkHeader = frame.nwkHeader := by
  obtain ⟨auxHeader, source, haux, hsource, hlen⟩ := tryable_of_decides (.inl ⟨f, hdecrypt⟩)
  have hheader := ZigbeeNwkHeader.serialize_eq hwf.nwkHeader
  have hne : frame.payload ≠ [] := by
    intro hnil
    rw [decrypt_nil encryptBlock key haux hsource hheader hnil] at hdecrypt
    cases hdecrypt
  obtain ⟨hf, hccm⟩ := (decrypt_eq_ok_iff encryptBlock key haux hsource hheader hne hlen).mp hdecrypt
  rw [textOf_append_tagOf] at hccm
  have hlength := congrArg List.length hccm
  rw [length_ccmPayload, List.length_append, List.length_replicate] at hlength
  have haux' : f.auxHeader = some auxHeader := by
    rw [hf]
    exact haux
  have hheader' : f.nwkHeader.serialize = .ok frame.nwkHeader.body := by
    rw [hf]
    exact hheader
  refine ⟨_, DecryptedZigbeeNwkFrame.encrypt_eq encryptBlock key haux' hsource hheader' (by omega),
    ?_, by omega, by rw [hf]⟩
  constructor
  · intro hsame
    have hshort := congrArg List.length hsame
    dsimp only at hshort
    rw [length_ccmPayload] at hshort
    omega
  · intro hlong
    have hwhole : 4 - frame.payload.length = 0 := by omega
    rw [hwhole, List.replicate_zero, List.append_nil] at hccm
    exact hccm

end EncryptedZigbeeNwkFrame

/-! ## Trying the keys -/

theorem unguarded_eq_ok {α : Type} {x : Except PyException α} {a : α} :
    unguarded x = .ok a ↔ x = .ok a := by
  cases x <;> simp [unguarded]

/-- The key that is found is one of the keys, and there is none if none is found. -/
theorem of_tryKeys {entries : List ((_ : String) × Key)}
    {found : Option (String × Key × DecryptedZigbeeNwkFrame)}
    (h : tryKeys encryptBlock frame entries = .ok found) :
    (found = none → ∀ entry ∈ entries, ∀ f, frame.decrypt encryptBlock entry.2 ≠ .ok f) ∧
      ∀ name key f, found = some (name, key, f) →
        ⟨name, key⟩ ∈ entries ∧ frame.decrypt encryptBlock key = .ok f := by
  induction entries with
  | nil => cases h
  | cons entry rest ih =>
    obtain ⟨name, key⟩ := entry
    rw [tryKeys] at h
    cases hdecrypt : frame.decrypt encryptBlock key with
    | ok f =>
      rw [hdecrypt] at h
      cases h
      refine ⟨by simp, ?_⟩
      rintro _ _ _ ⟨⟩
      exact ⟨List.mem_cons_self, hdecrypt⟩
    | error e =>
      rw [hdecrypt] at h
      have hfirst : ∀ f, frame.decrypt encryptBlock key ≠ .ok f := by simp [hdecrypt]
      cases e with
      | decryptionFailure message =>
        dsimp only at h
        split at h
        next hlast =>
          cases h
          subst hlast
          refine ⟨?_, by simp⟩
          rintro - entry hmem
          rw [List.mem_singleton.mp hmem]
          exact hfirst
        next =>
          obtain ⟨hnone, hsome⟩ := ih h
          refine ⟨fun hfound => List.forall_mem_cons.mpr ⟨hfirst, hnone hfound⟩, ?_⟩
          intro name' key' f hfound
          obtain ⟨hmem, hdecrypt'⟩ := hsome name' key' f hfound
          exact ⟨List.mem_cons_of_mem _ hmem, hdecrypt'⟩
      | _ => cases h

/-- The search ends with a result exactly if there are keys and they can be tried. -/
theorem tryKeys_returns_iff (encryptBlock : Key → Block → Block) (hwf : frame.WellFormed)
    (entries : List ((_ : String) × Key)) :
    (∃ found, tryKeys encryptBlock frame entries = .ok found) ↔ entries ≠ [] ∧ frame.Tryable := by
  induction entries with
  | nil => simp [tryKeys]
  | cons entry rest ih =>
    obtain ⟨name, key⟩ := entry
    have hdecides : Decides (frame.decrypt encryptBlock key) ↔ frame.Tryable :=
      ⟨EncryptedZigbeeNwkFrame.tryable_of_decides, EncryptedZigbeeNwkFrame.decides_of_tryable hwf⟩
    rw [tryKeys, ← hdecides]
    cases hdecrypt : frame.decrypt encryptBlock key with
    | ok f => simp [Decides]
    | error e =>
      cases e with
      | decryptionFailure message =>
        rw [hdecrypt] at hdecides
        by_cases hlast : rest = []
        · simp [Decides, hlast]
        · have htryable : frame.Tryable := hdecides.mp (.inr ⟨message, rfl⟩)
          simp [Decides, hlast, ih, htryable]
      | _ => simp [Decides]

end Frames

/-! ## A network frame -/

variable (encryptBlock : Key → Block → Block) (keys : NetworkKeys)

/-- Some key decrypts the frame. -/
def Decryptable (frame : EncryptedZigbeeNwkFrame) : Prop :=
  ∃ entry ∈ keys.entries, ∃ f, frame.decrypt encryptBlock entry.2 = .ok f

/-- The network frames that the script does not raise on. -/
structure NwkPasses (frame : EncryptedZigbeeNwkFrame) : Prop where
  someKey : keys.entries ≠ []
  tryable : frame.Tryable
  /-- a decrypted frame has had a whole tag -/
  wholeTag : Decryptable encryptBlock keys frame → 4 ≤ frame.payload.length
  /-- and the data of it a whole header of the layer above -/
  wholeHeader : Decryptable encryptBlock keys frame →
    frame.nwkHeader.frameControl.frameType = .data → 12 ≤ frame.payload.length

/-- What may be printed for a network frame. -/
def NwkPrintable (frame : EncryptedZigbeeNwkFrame) (f : DecryptedZigbeeNwkFrame)
    (apsFrame : ZigbeeApsFrame) : Prop :=
  (∃ entry ∈ keys.entries, frame.decrypt encryptBlock entry.2 = .ok f) ∧
    f.nwkHeader.frameControl.frameType = .data ∧ ZigbeeApsFrame.fromBytes f.payload = .ok apsFrame

section Search

variable {encryptBlock keys} {frame : EncryptedZigbeeNwkFrame} {s : CaptureCheck}

/-- A key that is in the dictionary only moves. -/
theorem insert_perm {networkKeys : NetworkKeys} {name : String} {key : Key}
    (h : ⟨name, key⟩ ∈ networkKeys.entries) :
    (networkKeys.insert name key).entries.Perm networkKeys.entries := by
  obtain ⟨key', front, back, -, hentries, herase⟩ :=
    List.exists_of_kerase (List.mem_keys_of_mem h)
  have hsame : key = key' := networkKeys.nodupKeys.eq_of_mk_mem h (by simp [hentries])
  rw [AList.entries_insert, herase, hentries, hsame]
  exact List.perm_middle.symm

/-- What the search returns. -/
theorem of_decrypted (hperm : s.networkKeys.entries.Perm keys.entries) {s' : CaptureCheck}
    {found : Option DecryptedZigbeeNwkFrame}
    (h : s.decrypted encryptBlock frame = .ok (s', found)) :
    s'.networkKeys.entries.Perm keys.entries ∧ s'.printed = s.printed ∧
      (found = none → ¬ Decryptable encryptBlock keys frame) ∧
      ∀ f, found = some f → ∃ entry ∈ keys.entries, frame.decrypt encryptBlock entry.2 = .ok f := by
  obtain ⟨result, htry, h⟩ := except_bind_eq_ok.mp h
  obtain ⟨hnone, hsome⟩ := of_tryKeys htry
  cases result with
  | none =>
    cases h
    refine ⟨hperm, rfl, ?_, by simp⟩
    rintro - ⟨entry, hmem, f, hdecrypt⟩
    exact hnone rfl entry (hperm.mem_iff.mpr hmem) f hdecrypt
  | some result =>
    obtain ⟨name, key, f⟩ := result
    obtain ⟨hmem, hdecrypt⟩ := hsome name key f rfl
    obtain ⟨g, -, h⟩ := except_bind_eq_ok.mp h
    split at h
    · cases h
      refine ⟨(insert_perm hmem).trans hperm, rfl, by simp, ?_⟩
      rintro _ ⟨⟩
      exact ⟨⟨name, key⟩, hperm.mem_iff.mp hmem, hdecrypt⟩
    · cases h

theorem decrypted_returns_iff (encryptBlock : Key → Block → Block) (hwf : frame.WellFormed)
    (hperm : s.networkKeys.entries.Perm keys.entries) :
    (∃ result, s.decrypted encryptBlock frame = .ok result) ↔ keys.entries ≠ [] ∧ frame.Tryable ∧
      (Decryptable encryptBlock keys frame → 4 ≤ frame.payload.length) := by
  have hkeys : s.networkKeys.entries = [] ↔ keys.entries = [] :=
    ⟨fun h => (h ▸ hperm).nil_eq.symm, fun h => (h ▸ hperm).eq_nil⟩
  have htryKeys := tryKeys_returns_iff encryptBlock hwf s.networkKeys.entries
  rw [ne_eq, hkeys] at htryKeys
  rw [← and_assoc, ← htryKeys]
  constructor
  · rintro ⟨result, h⟩
    obtain ⟨found, htry, h⟩ := except_bind_eq_ok.mp h
    refine ⟨⟨found, htry⟩, ?_⟩
    rintro ⟨entry, hmem, f, hdecrypt⟩
    obtain ⟨hnone, hsome⟩ := of_tryKeys htry
    cases found with
    | none => exact absurd hdecrypt (hnone rfl entry (hperm.mem_iff.mpr hmem) f)
    | some found =>
      obtain ⟨name, key, f'⟩ := found
      obtain ⟨g, hencrypt, h⟩ := except_bind_eq_ok.mp h
      obtain ⟨g', hencrypt', hwhole, -⟩ :=
        EncryptedZigbeeNwkFrame.encrypt_of_decrypt hwf (hsome name key f' rfl).2
      rw [unguarded_eq_ok, hencrypt'] at hencrypt
      cases hencrypt
      split at h
      next hsame => exact hwhole.mp hsame
      next => cases h
  · rintro ⟨⟨found, htry⟩, hlong⟩
    obtain ⟨-, hsome⟩ := of_tryKeys htry
    unfold CaptureCheck.decrypted
    cases found with
    | none => exact ⟨_, except_bind_eq_ok.mpr ⟨_, htry, rfl⟩⟩
    | some found =>
      obtain ⟨name, key, f⟩ := found
      obtain ⟨hmem, hdecrypt⟩ := hsome name key f rfl
      obtain ⟨g, hencrypt, hwhole, -⟩ := EncryptedZigbeeNwkFrame.encrypt_of_decrypt hwf hdecrypt
      have hsame := hwhole.mpr (hlong ⟨_, hperm.mem_iff.mp hmem, f, hdecrypt⟩)
      exact ⟨_, except_bind_eq_ok.mpr ⟨_, htry,
        except_bind_eq_ok.mpr ⟨g, unguarded_eq_ok.mpr hencrypt, if_pos hsame⟩⟩⟩

/-- What is appended to the output for a packet with this index. -/
inductive Output (index : Nat) (printable : DecryptedZigbeeNwkFrame → ZigbeeApsFrame → Prop) :
    List (Nat × DecryptedZigbeeNwkFrame × ZigbeeApsFrame) → Prop
  | nothing (hnone : ∀ f apsFrame, ¬ printable f apsFrame) : Output index printable []
  | frame {f : DecryptedZigbeeNwkFrame} {apsFrame : ZigbeeApsFrame}
    (hprintable : printable f apsFrame) : Output index printable [(index + 1, f, apsFrame)]

/-- A part of the script goes on with the same keys, and prints what may be printed. -/
structure Continued (keys : NetworkKeys) (index : Nat)
    (printable : DecryptedZigbeeNwkFrame → ZigbeeApsFrame → Prop) (s t : CaptureCheck) : Prop where
  perm : t.networkKeys.entries.Perm keys.entries
  printed : ∃ out, Output index printable out ∧ t.printed = s.printed ++ out

theorem Continued.nothing {index : Nat}
    {printable : DecryptedZigbeeNwkFrame → ZigbeeApsFrame → Prop} {t : CaptureCheck}
    (hperm : t.networkKeys.entries.Perm keys.entries) (hprinted : t.printed = s.printed)
    (hnone : ∀ f apsFrame, ¬ printable f apsFrame) : Continued keys index printable s t :=
  ⟨hperm, [], .nothing hnone, by rw [hprinted, List.append_nil]⟩

theorem print_returns_iff (s : CaptureCheck) (index : Nat) (f : DecryptedZigbeeNwkFrame) :
    (∃ t, s.print index f = .ok t) ↔
      (f.nwkHeader.frameControl.frameType = .data → 8 ≤ f.payload.length) := by
  rw [← ZigbeeApsFrame.fromBytes_returns_iff, CaptureCheck.print]
  split
  next htype => simp [htype]
  next htype =>
    constructor
    · rintro ⟨t, h⟩ -
      obtain ⟨apsFrame, haps, -⟩ := except_bind_eq_ok.mp h
      exact ⟨apsFrame, unguarded_eq_ok.mp haps⟩
    · intro h
      obtain ⟨apsFrame, haps⟩ := h (not_not.mp htype)
      exact ⟨_, except_bind_eq_ok.mpr ⟨apsFrame, unguarded_eq_ok.mpr haps, rfl⟩⟩

/-- Printing keeps the keys. -/
theorem of_print {index : Nat} {f : DecryptedZigbeeNwkFrame} {t : CaptureCheck}
    (h : s.print index f = .ok t) : t.networkKeys = s.networkKeys ∧
      ((f.nwkHeader.frameControl.frameType ≠ .data ∧ t.printed = s.printed) ∨
        ∃ apsFrame, f.nwkHeader.frameControl.frameType = .data ∧
          ZigbeeApsFrame.fromBytes f.payload = .ok apsFrame ∧
          t.printed = s.printed ++ [(index + 1, f, apsFrame)]) := by
  unfold CaptureCheck.print at h
  split at h
  next htype =>
    cases h
    exact ⟨rfl, .inl ⟨htype, rfl⟩⟩
  next htype =>
    obtain ⟨apsFrame, haps, h⟩ := except_bind_eq_ok.mp h
    cases h
    exact ⟨rfl, .inr ⟨apsFrame, not_not.mp htype, unguarded_eq_ok.mp haps, rfl⟩⟩

/-- What follows the search. -/
theorem checkNwkFrame_eq_ok_iff {index : Nat} {payload : List UInt8} {t : CaptureCheck}
    (hread : ZigbeeNwkFrame.fromBytes payload = .ok frame) :
    s.checkNwkFrame encryptBlock index payload = .ok t ↔
      ∃ s' found, s.decrypted encryptBlock frame = .ok (s', found) ∧
        (found = none → t = s') ∧ ∀ f, found = some f → s'.print index f = .ok t := by
  have hframe := unguarded_eq_ok.mpr hread
  constructor
  · intro h
    obtain ⟨frame', hframe', h⟩ := except_bind_eq_ok.mp h
    rw [hframe] at hframe'
    cases hframe'
    obtain ⟨⟨s', found⟩, hdecrypted, h⟩ := except_bind_eq_ok.mp h
    refine ⟨s', found, hdecrypted, ?_⟩
    cases found with
    | none =>
      cases h
      simp
    | some f =>
      refine ⟨by simp, ?_⟩
      rintro _ ⟨⟩
      exact h
  · rintro ⟨s', found, hdecrypted, hnone, hsome⟩
    refine except_bind_eq_ok.mpr ⟨frame, hframe, except_bind_eq_ok.mpr ⟨_, hdecrypted, ?_⟩⟩
    cases found with
    | none => rw [hnone rfl]
    | some f => exact hsome f rfl

theorem checkNwkFrame_returns_iff (hperm : s.networkKeys.entries.Perm keys.entries) (index : Nat)
    {payload : List UInt8} (hread : ZigbeeNwkFrame.fromBytes payload = .ok frame) :
    (∃ t, s.checkNwkFrame encryptBlock index payload = .ok t) ↔
      NwkPasses encryptBlock keys frame := by
  have hwf := (ZigbeeNwkFrame.of_fromBytes hread).1
  have hreturns := decrypted_returns_iff encryptBlock hwf hperm
  simp only [checkNwkFrame_eq_ok_iff hread]
  constructor
  · rintro ⟨t, s', found, hdecrypted, -, hprint⟩
    obtain ⟨hkey, htryable, htag⟩ := hreturns.mp ⟨_, hdecrypted⟩
    obtain ⟨-, -, hnone, hsome⟩ := of_decrypted hperm hdecrypted
    refine ⟨hkey, htryable, htag, fun hdecryptable hdata => ?_⟩
    cases found with
    | none => exact absurd hdecryptable (hnone rfl)
    | some f =>
      obtain ⟨entry, -, hdecrypt⟩ := hsome f rfl
      obtain ⟨g, -, -, hlength, hheader⟩ := EncryptedZigbeeNwkFrame.encrypt_of_decrypt hwf hdecrypt
      rw [← hheader] at hdata
      have hlong := (print_returns_iff s' index f).mp ⟨t, hprint f rfl⟩ hdata
      omega
  · rintro ⟨hkey, htryable, htag, hlong⟩
    obtain ⟨⟨s', found⟩, hdecrypted⟩ := hreturns.mpr ⟨hkey, htryable, htag⟩
    obtain ⟨-, -, -, hsome⟩ := of_decrypted hperm hdecrypted
    cases found with
    | none => exact ⟨s', s', none, hdecrypted, by simp⟩
    | some f =>
      obtain ⟨entry, hmem, hdecrypt⟩ := hsome f rfl
      obtain ⟨g, -, -, hlength, hheader⟩ := EncryptedZigbeeNwkFrame.encrypt_of_decrypt hwf hdecrypt
      obtain ⟨t, ht⟩ := (print_returns_iff s' index f).mpr fun hdata => by
        have hwhole := hlong ⟨entry, hmem, f, hdecrypt⟩ (hheader ▸ hdata)
        omega
      refine ⟨t, s', some f, hdecrypted, by simp, ?_⟩
      rintro _ ⟨⟩
      exact ht

theorem of_checkNwkFrame (hperm : s.networkKeys.entries.Perm keys.entries) {index : Nat}
    {payload : List UInt8} (hread : ZigbeeNwkFrame.fromBytes payload = .ok frame) {t : CaptureCheck}
    (h : s.checkNwkFrame encryptBlock index payload = .ok t) :
    Continued keys index (NwkPrintable encryptBlock keys frame) s t := by
  have hwf := (ZigbeeNwkFrame.of_fromBytes hread).1
  obtain ⟨s', found, hdecrypted, hskip, hprint⟩ := (checkNwkFrame_eq_ok_iff hread).mp h
  obtain ⟨hperm', hprinted, hnone, hsome⟩ := of_decrypted hperm hdecrypted
  cases found with
  | none =>
    rw [hskip rfl]
    refine .nothing hperm' hprinted ?_
    rintro f apsFrame ⟨⟨entry, hmem, hdecrypt⟩, -⟩
    exact hnone rfl ⟨entry, hmem, f, hdecrypt⟩
  | some f =>
    obtain ⟨entry, hmem, hdecrypt⟩ := hsome f rfl
    obtain ⟨-, -, -, -, hheader⟩ := EncryptedZigbeeNwkFrame.encrypt_of_decrypt hwf hdecrypt
    obtain ⟨hkeys, ⟨htype, ht⟩ | ⟨apsFrame, htype, haps, ht⟩⟩ := of_print (hprint f rfl)
    · refine .nothing (hkeys ▸ hperm') (ht.trans hprinted) ?_
      rintro f' apsFrame ⟨⟨entry', -, hdecrypt'⟩, htype', -⟩
      obtain ⟨-, -, -, -, hheader'⟩ := EncryptedZigbeeNwkFrame.encrypt_of_decrypt hwf hdecrypt'
      rw [hheader', ← hheader] at htype'
      exact htype htype'
    · exact ⟨hkeys ▸ hperm', _, .frame ⟨⟨entry, hmem, hdecrypt⟩, htype, haps⟩, by rw [ht, hprinted]⟩

end Search

/-! ## A packet -/

/-- The packets that are written as they were read: the check sequence is right and lies behind
    the header, and no source PAN id is lost. -/
structure WrittenAsRead (packet : List UInt8) : Prop where
  fcs : IEEE802154Frame.computeFcs (packet.take (packet.length - 2)) =
    .ok (packet.drop (packet.length - 2))
  header : IEEE802154Frame.headerLength (IEEE802154Frame.controlOf packet) + 2 ≤ packet.length
  srcPanId : ¬ IEEE802154Frame.LosesSrcPanId packet

/-- The packets that the script does not raise on. -/
def Passes (packet : List UInt8) : Prop :=
  ∃ ieeeFrame, IEEE802154Frame.fromBytes packet = .ok ieeeFrame ∧ WrittenAsRead packet ∧
    (ieeeFrame.frameControl.frameType = .data →
      ∃ frame, ZigbeeNwkFrame.fromBytes ieeeFrame.payload = .ok frame ∧
        NwkPasses encryptBlock keys frame)

/-- What may be printed for a packet. -/
def Printable (packet : List UInt8) (f : DecryptedZigbeeNwkFrame) (apsFrame : ZigbeeApsFrame) :
    Prop :=
  ∃ ieeeFrame frame, IEEE802154Frame.fromBytes packet = .ok ieeeFrame ∧
    ieeeFrame.frameControl.frameType = .data ∧
    ZigbeeNwkFrame.fromBytes ieeeFrame.payload = .ok frame ∧
    NwkPrintable encryptBlock keys frame f apsFrame

namespace IEEE802154Frame

theorem serialize_eq_ok_iff {frame : IEEE802154Frame} {data : List UInt8} (hwf : frame.WellFormed) :
    frame.serialize = .ok data ↔ 2 ≤ data.length ∧
      frame.header (hasSrcPanId frame.frameControl && !frame.isBeaconRequest) ++ frame.payload =
        data.take (data.length - 2) ∧
      computeFcs (data.take (data.length - 2)) = .ok (data.drop (data.length - 2)) := by
  have hwritten := serialize_eq hwf
  dsimp only at hwritten
  rw [hwritten]
  constructor
  · intro h
    obtain ⟨fcs, hfcs, h⟩ := except_bind_eq_ok.mp h
    cases h
    have hlength : fcs.length = 2 := by
      rw [computeFcs_eq_toLeBytes] at hfcs
      cases hfcs
      exact length_u16ToLeBytes _
    rw [List.length_append, hlength, Nat.add_sub_cancel, List.take_left, List.drop_left]
    exact ⟨Nat.le_add_left 2 _, rfl, hfcs⟩
  · rintro ⟨-, hbody, hfcs⟩
    rw [hbody, hfcs]
    exact congrArg Except.ok (List.take_append_drop _ _)

theorem writtenAsRead_iff {frame : IEEE802154Frame} {data : List UInt8}
    (h : fromBytes data = .ok frame) : frame.serialize = .ok data ↔ WrittenAsRead data := by
  obtain ⟨hwf, tail, hdata, hpayload⟩ := of_fromBytes h
  have hcontrol : controlOf data = frame.frameControl := by rw [hdata, controlOf_header]
  have hloses := losesSrcPanId_iff hwf hdata hpayload
  have hheader := length_header hwf (hasSrcPanId frame.frameControl) id
  have hlen : data.length = headerLength frame.frameControl + tail.length := by
    rw [hdata, List.length_append]
    omega
  have hpayloadLength : frame.payload.length = tail.length - 2 := by
    rw [hpayload, List.length_take]
    omega
  rw [serialize_eq_ok_iff hwf]
  constructor
  · rintro ⟨htwo, hbody, hfcs⟩
    have hsame := congrArg List.length hbody
    rw [List.length_append, List.length_take, hpayloadLength] at hsame
    cases hbeacon : hasSrcPanId frame.frameControl && frame.isBeaconRequest with
    | true =>
      exfalso
      obtain ⟨hhas, hrequest⟩ := Bool.and_eq_true_iff.mp hbeacon
      have hthree := (hloses.mpr hbeacon).2.2.1
      have hshort := length_header hwf false (by simp)
      rw [hcontrol] at hthree
      simp only [hhas, hrequest, Bool.not_true, Bool.and_false, Bool.toNat_true,
        Bool.toNat_false] at hshort hsame
      omega
    | false =>
      rw [keeps_of_not_both hbeacon] at hsame
      refine ⟨hfcs, ?_, ?_⟩
      · rw [hcontrol]
        omega
      · rw [hloses, hbeacon]
        exact Bool.false_ne_true
  · rintro ⟨hfcs, hlong, hnot⟩
    rw [hloses, Bool.not_eq_true] at hnot
    rw [hcontrol] at hlong
    rw [keeps_of_not_both hnot]
    exact ⟨by omega, header_append_payload hdata hpayload (by omega), hfcs⟩

end IEEE802154Frame

section Runs

variable {encryptBlock keys} {s : CaptureCheck}

/-- What follows the first assertion. -/
theorem checkPacket_eq_ok_iff {index : Nat} {packet : List UInt8} {t : CaptureCheck} :
    s.checkPacket encryptBlock index packet = .ok t ↔
      ∃ ieeeFrame, IEEE802154Frame.fromBytes packet = .ok ieeeFrame ∧ WrittenAsRead packet ∧
        (ieeeFrame.frameControl.frameType ≠ .data → t = s) ∧
        (ieeeFrame.frameControl.frameType = .data →
          s.checkNwkFrame encryptBlock index ieeeFrame.payload = .ok t) := by
  unfold CaptureCheck.checkPacket
  constructor
  · intro h
    obtain ⟨ieeeFrame, hread, h⟩ := except_bind_eq_ok.mp h
    obtain ⟨written, hwritten, h⟩ := except_bind_eq_ok.mp h
    rw [unguarded_eq_ok] at hread hwritten
    split at h
    next => cases h
    next hsame =>
      rw [not_not.mp hsame] at hwritten
      refine ⟨ieeeFrame, hread, (IEEE802154Frame.writtenAsRead_iff hread).mp hwritten, ?_⟩
      split at h
      next htype =>
        cases h
        exact ⟨fun _ => rfl, fun hdata => absurd hdata htype⟩
      next htype => exact ⟨fun hother => absurd hother htype, fun _ => h⟩
  · rintro ⟨ieeeFrame, hread, hwritten, hskip, hdata⟩
    refine except_bind_eq_ok.mpr ⟨ieeeFrame, unguarded_eq_ok.mpr hread,
      except_bind_eq_ok.mpr ⟨packet, unguarded_eq_ok.mpr
        ((IEEE802154Frame.writtenAsRead_iff hread).mpr hwritten), ?_⟩⟩
    rw [if_neg (not_not.mpr rfl)]
    split
    next htype => rw [hskip htype]
    next htype => exact hdata (not_not.mp htype)

theorem checkPacket_returns_iff (hperm : s.networkKeys.entries.Perm keys.entries) (index : Nat)
    (packet : List UInt8) :
    (∃ t, s.checkPacket encryptBlock index packet = .ok t) ↔ Passes encryptBlock keys packet := by
  simp only [checkPacket_eq_ok_iff]
  constructor
  · rintro ⟨t, ieeeFrame, hread, hwritten, -, hdata⟩
    refine ⟨ieeeFrame, hread, hwritten, fun htype => ?_⟩
    obtain ⟨frame, hframe, -⟩ := except_bind_eq_ok.mp (hdata htype)
    rw [unguarded_eq_ok] at hframe
    exact ⟨frame, hframe, (checkNwkFrame_returns_iff hperm index hframe).mp ⟨t, hdata htype⟩⟩
  · rintro ⟨ieeeFrame, hread, hwritten, hdata⟩
    by_cases htype : ieeeFrame.frameControl.frameType = .data
    · obtain ⟨frame, hframe, hpasses⟩ := hdata htype
      obtain ⟨t, ht⟩ := (checkNwkFrame_returns_iff hperm index hframe).mpr hpasses
      exact ⟨t, ieeeFrame, hread, hwritten, fun hother => absurd htype hother, fun _ => ht⟩
    · exact ⟨s, ieeeFrame, hread, hwritten, fun _ => rfl, fun hdata => absurd hdata htype⟩

theorem of_checkPacket (hperm : s.networkKeys.entries.Perm keys.entries) {index : Nat}
    {packet : List UInt8} {t : CaptureCheck}
    (h : s.checkPacket encryptBlock index packet = .ok t) :
    Continued keys index (Printable encryptBlock keys packet) s t := by
  obtain ⟨ieeeFrame, hread, -, hskip, hdata⟩ := checkPacket_eq_ok_iff.mp h
  have hprintable : ∀ f apsFrame, Printable encryptBlock keys packet f apsFrame →
      ieeeFrame.frameControl.frameType = .data ∧ ∀ frame,
        ZigbeeNwkFrame.fromBytes ieeeFrame.payload = .ok frame →
          NwkPrintable encryptBlock keys frame f apsFrame := by
    rintro f apsFrame ⟨ieeeFrame', frame', hread', htype, hframe', hprint⟩
    rw [hread] at hread'
    cases hread'
    refine ⟨htype, fun frame hframe => ?_⟩
    rw [hframe'] at hframe
    cases hframe
    exact hprint
  by_cases htype : ieeeFrame.frameControl.frameType = .data
  · obtain ⟨frame, hframe, -⟩ := except_bind_eq_ok.mp (hdata htype)
    rw [unguarded_eq_ok] at hframe
    obtain ⟨hperm', out, hout, hprinted⟩ := of_checkNwkFrame hperm hframe (hdata htype)
    refine ⟨hperm', out, ?_, hprinted⟩
    cases hout with
    | nothing hnone =>
      exact .nothing fun f apsFrame hprint => hnone f apsFrame ((hprintable f apsFrame hprint).2 _ hframe)
    | frame hprint => exact .frame ⟨ieeeFrame, frame, hread, htype, hframe, hprint⟩
  · rw [hskip htype]
    exact .nothing hperm rfl fun f apsFrame hprint => htype (hprintable f apsFrame hprint).1

end Runs

/-! ## The script -/

/-- The output for the packets of a file from the one with this index on. -/
inductive Prints : Nat → List (List UInt8) →
    List (Nat × DecryptedZigbeeNwkFrame × ZigbeeApsFrame) → Prop
  | nil (index : Nat) : Prints index [] []
  | cons {index : Nat} {packet : List UInt8} {packets : List (List UInt8)}
    {out rest : List (Nat × DecryptedZigbeeNwkFrame × ZigbeeApsFrame)}
    (hpacket : Output index (Printable encryptBlock keys packet) out)
    (hrest : Prints (index + 1) packets rest) : Prints index (packet :: packets) (out ++ rest)

section Script

variable {encryptBlock keys} {s : CaptureCheck}

theorem checkFrom_returns_iff (hperm : s.networkKeys.entries.Perm keys.entries) (index : Nat)
    (packets : List (List UInt8)) :
    (∃ t, s.checkFrom encryptBlock index packets = .ok t) ↔
      ∀ packet ∈ packets, Passes encryptBlock keys packet := by
  induction packets generalizing index s with
  | nil => simp [CaptureCheck.checkFrom]
  | cons packet packets ih =>
    rw [List.forall_mem_cons, ← checkPacket_returns_iff hperm index packet, CaptureCheck.checkFrom]
    simp only [except_bind_eq_ok]
    constructor
    · rintro ⟨t, u, hpacket, hrest⟩
      exact ⟨⟨u, hpacket⟩, (ih (of_checkPacket hperm hpacket).perm (index + 1)).mp ⟨t, hrest⟩⟩
    · rintro ⟨⟨u, hpacket⟩, hrest⟩
      obtain ⟨t, ht⟩ := (ih (of_checkPacket hperm hpacket).perm (index + 1)).mpr hrest
      exact ⟨t, u, hpacket, ht⟩

theorem of_checkFrom (hperm : s.networkKeys.entries.Perm keys.entries) {index : Nat}
    {packets : List (List UInt8)} {t : CaptureCheck}
    (h : s.checkFrom encryptBlock index packets = .ok t) :
    t.networkKeys.entries.Perm keys.entries ∧
      ∃ out, Prints encryptBlock keys index packets out ∧ t.printed = s.printed ++ out := by
  induction packets generalizing index s with
  | nil =>
    cases h
    exact ⟨hperm, [], .nil index, (List.append_nil _).symm⟩
  | cons packet packets ih =>
    obtain ⟨u, hpacket, hrest⟩ := except_bind_eq_ok.mp h
    obtain ⟨hperm', out, hout, hprinted⟩ := of_checkPacket hperm hpacket
    obtain ⟨hperm'', rest, hprints, hprinted'⟩ := ih hperm' hrest
    refine ⟨hperm'', out ++ rest, .cons hout hprints, ?_⟩
    rw [hprinted', hprinted, List.append_assoc]

/-- The files one after another. -/
theorem checkFiles_spec (encryptBlock : Key → Block → Block)
    (hperm : s.networkKeys.entries.Perm keys.entries)
    (files : List (List (List UInt8))) :
    ((∃ t, files.foldlM (fun s packets => s.checkFrom encryptBlock 0 packets) s = .ok t) ↔
        ∀ packets ∈ files, ∀ packet ∈ packets, Passes encryptBlock keys packet) ∧
      ∀ t, files.foldlM (fun s packets => s.checkFrom encryptBlock 0 packets) s = .ok t →
        t.networkKeys.entries.Perm keys.entries ∧
          ∃ outs, List.Forall₂ (Prints encryptBlock keys 0) files outs ∧
            t.printed = s.printed ++ outs.flatten := by
  induction files generalizing s with
  | nil =>
    refine ⟨⟨fun _ => by simp, fun _ => ⟨s, rfl⟩⟩, ?_⟩
    rintro t ⟨⟩
    exact ⟨hperm, [], .nil, (List.append_nil _).symm⟩
  | cons packets files ih =>
    rw [List.forall_mem_cons, ← checkFrom_returns_iff hperm 0 packets]
    simp only [List.foldlM_cons, except_bind_eq_ok]
    constructor
    · constructor
      · rintro ⟨t, u, hfile, hrest⟩
        exact ⟨⟨u, hfile⟩, (ih (of_checkFrom hperm hfile).1).1.mp ⟨t, hrest⟩⟩
      · rintro ⟨⟨u, hfile⟩, hrest⟩
        obtain ⟨t, ht⟩ := (ih (of_checkFrom hperm hfile).1).1.mpr hrest
        exact ⟨t, u, hfile, ht⟩
    · rintro t ⟨u, hfile, hrest⟩
      obtain ⟨hperm', out, hout, hprinted⟩ := of_checkFrom hperm hfile
      obtain ⟨hperm'', outs, houts, hprinted'⟩ := (ih hperm').2 t hrest
      refine ⟨hperm'', out :: outs, .cons hout houts, ?_⟩
      rw [hprinted', hprinted, List.flatten_cons, List.append_assoc]

end Script

/-- The script ends without an exception exactly if every packet of every file passes, which does
    not depend on the order of the keys or on other packets. It then has the keys that it had, and
    has printed for each file the frames that may be printed, with their numbers. -/
theorem checkCaptures_passes (files : List (List (List UInt8))) :
    ((∃ s, checkCaptures encryptBlock keys files = .ok s) ↔
        ∀ packets ∈ files, ∀ packet ∈ packets, Passes encryptBlock keys packet) ∧
      ∀ s, checkCaptures encryptBlock keys files = .ok s →
        s.networkKeys.entries.Perm keys.entries ∧
          ∃ outs, List.Forall₂ (Prints encryptBlock keys 0) files outs ∧ s.printed = outs.flatten :=
  checkFiles_spec encryptBlock (List.Perm.refl keys.entries) files

end ZigpySpinel.Python
