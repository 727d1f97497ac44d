import Wallet.Proofs.Text.Base64
import Wallet.Transaction.Script

/-!
# Scripts as text

A script has two texts, base64 with the marker in front of it and base64 alone
(`ofText_eq_ok_iff`). They cannot be confused: the marker ends in a colon, which is no symbol of
base64, so a text from which the marker was taken off does not start with another one.
-/

namespace Wallet.Script

/-! ## §1. The colon -/

theorem toNat_symbol_ne_colon_all : ∀ n : Fin 64, (Base64.symbol n).toNat ≠ ':'.toNat := by
  decide

/-- No base64 text has a colon in it. -/
theorem colon_notMem_encode (script : Bytes) : ':' ∉ (Base64.encode script).toList := by
  rw [Base64.encode, String.toList_ofList]
  intro hcolon
  obtain ⟨byte, hbyte, hchar⟩ := List.mem_map.mp hcolon
  have hnumber : byte.toNat = ':'.toNat := by rw [← hchar, toNat_ofNat_byte]
  rcases Base64.eq_symbol_of_mem_encodeBytes script byte hbyte with rfl | ⟨n, hn, rfl⟩
  · exact absurd hnumber (by decide)
  · exact toNat_symbol_ne_colon_all ⟨n, hn⟩ hnumber

/-- So none of them starts with the marker. -/
theorem not_marked_encode (script : Bytes) :
    ¬ marker.toList <+: (Base64.encode script).toList := by
  intro hmarked
  have hcolon : ':' ∈ marker.toList := by decide
  exact colon_notMem_encode script (hmarked.subset hcolon)

theorem encode_ne_toText (script : Bytes) : Base64.encode script ≠ toText script := by
  intro heq
  apply not_marked_encode script
  rw [heq, toText, String.toList_append]
  exact List.prefix_append _ _

/-! ## §2. The marker -/

theorem withoutMarker_of_not_marked {text : String} (hmarked : ¬ marker.toList <+: text.toList) :
    withoutMarker text = text := by
  rw [withoutMarker, if_neg fun hprefix => hmarked (List.isPrefixOf_iff_prefix.mp hprefix)]

/-- The marker is taken off once, whatever stands behind it. -/
theorem withoutMarker_marker_append (text : String) : withoutMarker (marker ++ text) = text := by
  rw [withoutMarker, String.toList_append, if_pos (by simp), ← String.length_toList,
    List.drop_left, String.ofList_toList]

theorem exists_marker_append {text : String} (hmarked : marker.toList <+: text.toList) :
    ∃ rest, text = marker ++ rest := by
  obtain ⟨rest, hrest⟩ := hmarked
  refine ⟨String.ofList rest, ?_⟩
  apply String.toList_inj.mp
  rw [String.toList_append, String.toList_ofList, hrest]

/-- What a text is taken for: what stands behind the marker, or itself. -/
theorem withoutMarker_eq_iff {text rest : String} :
    withoutMarker text = rest ↔
      text = marker ++ rest ∨ text = rest ∧ ¬ marker.toList <+: rest.toList := by
  -- Whether the marker is there decides which of the two it is.
  by_cases hmarked : marker.toList <+: text.toList
  · obtain ⟨rest', rfl⟩ := exists_marker_append hmarked
    rw [withoutMarker_marker_append]
    constructor
    · rintro rfl
      exact .inl rfl
    · rintro (heq | ⟨rfl, hnot⟩)
      · rw [← withoutMarker_marker_append rest', heq, withoutMarker_marker_append]
      · exact absurd hmarked hnot
  · rw [withoutMarker_of_not_marked hmarked]
    constructor
    · rintro rfl
      exact .inr ⟨rfl, hmarked⟩
    · rintro (rfl | ⟨rfl, -⟩)
      · exact absurd (by simp [String.toList_append]) hmarked
      · rfl

/-! ## §3. Reading -/

/-- **A script has two texts**, and no other text is read as it. -/
theorem ofText_eq_ok_iff {text : String} {script : Bytes} :
    ofText text = .ok script ↔ text = Base64.encode script ∨ text = toText script := by
  have hread : ofText text = .ok script ↔ Base64.decode (withoutMarker text) = .ok script := by
    unfold ofText
    cases Base64.decode (withoutMarker text) <;> simp
  rw [hread, Base64.decode_eq_ok_iff, withoutMarker_eq_iff]
  constructor
  · rintro (hmarked | ⟨hplain, -⟩)
    · exact .inr hmarked
    · exact .inl hplain
  · rintro (hplain | hmarked)
    · exact .inr ⟨hplain, not_marked_encode script⟩
    · exact .inl hmarked

theorem ofText_toText (script : Bytes) : ofText (toText script) = .ok script :=
  ofText_eq_ok_iff.mpr (.inr rfl)

end Wallet.Script
