import Vokusz.Db.ReadStates
import Vokusz.Snowflake

namespace Vokusz.Db

open Lib Snowflake

structure InOrder (i j : String) : Prop where
  listed : ∀ rows, ∀ m ∈ rows, m.id = j → m ∈ Messages.newerThan i rows
  unread : ∀ db userId c, c.lastMessageId = some j → ReadStates.lastRead db userId c.id = some i →
    ReadStates.belongs db userId c = true → (ReadStates.unreadChannel db userId c).isSome = true
  acked : ∀ r : ReadState, r.lastReadMessageId = some i →
    (ReadStates.advance j r).lastReadMessageId = some j

theorem inOrder_iff {i j : String} : InOrder i j ↔ i < j := by
  constructor
  · intro h
    have hmem := h.listed [Messages.systemRow j "" "" "" "" "" ""] _ (List.mem_singleton.mpr rfl) rfl
    exact of_decide_eq_true (List.mem_filter.mp hmem).2
  · intro h
    constructor
    · rintro rows m hm rfl
      exact List.mem_filter.mpr ⟨hm, decide_eq_true h⟩
    · intro db userId c hlast hread hbelongs
      have hnewer : (ReadStates.lastRead db userId c.id).all (fun r => decide (r < j)) = true := by
        rw [hread]
        exact decide_eq_true h
      simp only [ReadStates.unreadChannel, hlast, hbelongs, hnewer, Bool.and_self, if_true,
        Option.isSome_some]
    · intro r hr
      simp only [ReadStates.advance, hr, Option.getD_some, if_pos h]

theorem ident_lt {t₁ s₁ t₂ s₂ : Nat} (h : t₁ < t₂) (ht₂ : t₂ < 2 ^ 42) (hs₁ : s₁ < 4096)
    (hs₂ : s₂ < 4096) : ident t₁ s₁ < ident t₂ s₂ := by
  rw [ident_eq (h.trans ht₂) hs₁, ident_eq ht₂ hs₂]
  omega

theorem ids_inOrder_iff {t₁ s₁ t₂ s₂ : Nat} (h : t₁ < t₂) (ht₂ : t₂ < 2 ^ 42) (hs₁ : s₁ < 4096)
    (hs₂ : s₂ < 4096) :
    InOrder (idOf t₁ s₁) (idOf t₂ s₂) ↔
      (t₁ * 2 ^ 22 + s₁) * 10 ^ (Decimal.width (t₂ * 2 ^ 22 + s₂) -
        Decimal.width (t₁ * 2 ^ 22 + s₁)) ≤ t₂ * 2 ^ 22 + s₂ := by
  rw [inOrder_iff, idOf, idOf, Decimal.toString_lt_iff (ident_lt h ht₂ hs₁ hs₂),
    ident_eq (h.trans ht₂) hs₁, ident_eq ht₂ hs₂]

theorem ids_out_of_order : ¬ InOrder (idOf 238418579101 0) (idOf 238418579102 0) := by
  rw [inOrder_iff, idOf, idOf, Decimal.toString_lt_iff (by decide)]
  decide +kernel

theorem ids_inOrder_eighteen_digits : InOrder (idOf 60000000000 4095) (idOf 60000000001 0) :=
  (ids_inOrder_iff (by decide) (by decide) (by decide) (by decide)).mpr (by decide +kernel)

end Vokusz.Db
