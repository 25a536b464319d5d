import UsageScan.Proofs.Limit
import UsageScan.Proofs.StringEnd
/-!
# Where comments end, and their bodies

A block comment ends with the first `*/` behind its opening `/*`. One that is never closed reaches
to the end of the source and is shown closed, so its body can be read off the text that is shown
like that of any other. A clipped text does not show the `*/` at its end, and it is never mistaken
for a shorter comment, because no `*/` comes before.

## Main definitions

* `LineCommentBody`, `BlockCommentBody` — where a comment ends, and its body
* `Lexeme.blockBody` — the body of a block comment, closed or not
* `CommentBodies` — where the comments of a scan end, and their bodies

## Main results

* `Form.eq_of_comment` — a comment is one of a line or a block
* `Lexeme.shortest_blockBody` — where a body is shown closed, no `*/` comes before its end
* `commentBody?_of_clip` — the body is read off the text shown, unless that is clipped
* `comment_bodies_scan` — where the comments of any scan end, and their bodies
-/

set_option autoImplicit false

namespace UsageScan

open Text

/-- Where the line comment with the characters `cs` behind its slashes ends, and its body. -/
structure LineCommentBody (source : List Char) (t : Token) (before cs : List Char) : Prop where
  source_eq : source = before ++ '/' :: '/' :: cs
  span : t.span = ⟨size before, size (before ++ '/' :: '/' :: cs.takeWhile (· ≠ '\n'))⟩
  unterminated : t.flags.unterminated = false
  body : t.flags.truncated = false → t.commentBody? = some (.ofList (cs.takeWhile (· ≠ '\n')))

/-- Where the block comment with the characters `cs` behind its `/*` ends, and its body. -/
structure BlockCommentBody (source : List Char) (t : Token) (before cs : List Char) : Prop where
  source_eq : source = before ++ '/' :: '*' :: cs
  closed : ∀ body, Shortest (OccursAt ['*', '/'] cs) body →
    t.span = ⟨size before, size (before ++ '/' :: '*' :: (body ++ ['*', '/']))⟩ ∧
      t.flags.unterminated = false ∧
      (t.flags.truncated = false → t.commentBody? = some (.ofList body))
  unclosed : (∀ body, ¬ OccursAt ['*', '/'] cs body) →
    t.span = ⟨size before, size source⟩ ∧ t.flags.unterminated = true ∧
      (t.flags.truncated = false → t.commentBody? = some (.ofList cs))
  clipped : t.flags.truncated = true → t.commentBody? = none

/-- Where the comments of a scan end, and their bodies. -/
structure CommentBodies (source : String) (options : Options) : Prop where
  line : ∀ t ∈ (Scanner.ofSource source options).tokens, t.kind = .comment →
    t.flags.blockComment = false → ∃ before cs, LineCommentBody source.toList t before cs
  block : ∀ t ∈ (Scanner.ofSource source options).tokens, t.kind = .comment →
    t.flags.blockComment = true → ∃ before cs, BlockCommentBody source.toList t before cs
  /-- Without a limit no text is clipped. -/
  whole : options.maxTokenLength = none → ∀ t ∈ (Scanner.ofSource source options).tokens,
    t.flags.truncated = false

/-! ### The body of a block comment -/

namespace Lexeme

/-- The body of the block comment with the characters `cs` behind its `/*`, closed or not. -/
def blockBody (cs : List Char) : List Char :=
  ((cut? ['*', '/'] cs).map Prod.fst).getD cs

theorem blockBody_of_shortest {cs body : List Char} (h : Shortest (OccursAt ['*', '/'] cs) body) :
    blockBody cs = body := by
  obtain ⟨behind, hcut⟩ := exists_cut?_of_shortest h
  rw [blockBody, hcut]
  rfl

theorem blockBody_of_not_occursAt {cs : List Char} (h : ∀ body, ¬ OccursAt ['*', '/'] cs body) :
    blockBody cs = cs := by
  rw [blockBody, cut?_eq_none_iff.mpr h]
  rfl

/-- Behind all characters of a comment that is never closed, a `*/` is the first one. -/
theorem shortest_append_close {cs : List Char} (h : ∀ body, ¬ OccursAt ['*', '/'] cs body) :
    Shortest (OccursAt ['*', '/'] (cs ++ ['*', '/'])) cs := by
  refine ⟨List.prefix_rfl, fun body hbody => ?_⟩
  by_contra hlt
  rw [Nat.not_le] at hlt
  -- It would end no later than with the star that is shown behind the comment.
  have hstar : body ++ ['*', '/'] <+: cs ++ ['*'] := by
    apply List.prefix_of_prefix_length_le hbody
    · exact (List.prefix_append_right_inj cs).mpr (List.prefix_append ['*'] ['/'])
    · simp only [List.length_append, List.length_cons, List.length_nil]
      omega
  rcases List.prefix_concat_iff.mp hstar with heq | hwithin
  · have hlast := congrArg List.getLast? heq
    simp at hlast
  · exact h body hwithin

/-- Where a body is shown closed, no `*/` comes before its end. -/
theorem shortest_blockBody (cs : List Char) :
    Shortest (OccursAt ['*', '/'] (blockBody cs ++ ['*', '/'])) (blockBody cs) := by
  cases hcut : cut? ['*', '/'] cs with
  | none =>
    have hnone := cut?_eq_none_iff.mp hcut
    rw [blockBody_of_not_occursAt hnone]
    exact shortest_append_close hnone
  | some parts =>
    have hbody := shortest_of_cut? hcut
    rw [blockBody_of_shortest hbody]
    exact ⟨List.prefix_rfl, fun other hother => hbody.least other (hother.trans hbody.holds)⟩

end Lexeme

/-! ### The text that is shown -/

section Clip

variable {limit : Option Nat} {text : List Char}

theorem clip_of_whole (h : (clip limit text).2 = false) : (clip limit text).1 = .ofList text := by
  cases limit with
  | none => rfl
  | some n =>
    have hle : text.length ≤ n := by simpa [clip] using h
    rw [clip, List.take_of_length_le hle]

theorem length_clip_lt (h : (clip limit text).2 = true) :
    (clip limit text).1.length < text.length := by
  cases limit with
  | none => contradiction
  | some n =>
    have hlt : n < text.length := by simpa [clip] using h
    rw [clip, String.length_ofList, List.length_take, Nat.min_eq_left (Nat.le_of_lt hlt)]
    exact hlt

end Clip

section CommentBody

variable {t : Token} (hkind : t.kind = .comment)
include hkind

theorem commentBody?_line_iff (hline : t.flags.blockComment = false) {body : String} :
    t.commentBody? = some body ↔ '/' :: '/' :: body.toList = t.text.toList := by
  rw [Token.commentBody?, if_neg (by simp [hkind]), if_neg (by simp [hline]),
    Option.map_eq_some_iff]
  simp only [List.isPrefixOf?_eq_some_iff_append_eq]
  constructor
  · rintro ⟨inner, hinner, rfl⟩
    rw [String.toList_ofList]
    exact hinner
  · intro h
    exact ⟨body.toList, h, String.ofList_toList⟩

theorem commentBody?_block_iff (hblock : t.flags.blockComment = true) {body : String} :
    t.commentBody? = some body ↔ Lexeme.blockText body.toList = t.text.toList := by
  rw [Token.commentBody?, if_neg (by simp [hkind]), if_pos hblock]
  simp only [Option.bind_eq_bind, Option.bind_eq_some_iff, List.isPrefixOf?_eq_some_iff_append_eq,
    List.isSuffixOf?_eq_some_iff_append_eq, Lexeme.blockText]
  constructor
  · rintro ⟨inner, hinner, found, rfl, hfound⟩
    obtain rfl : String.ofList found = body := Option.some.inj hfound
    rw [String.toList_ofList, List.append_assoc]
    exact hinner
  · intro h
    exact ⟨_, by rw [← h, List.append_assoc], body.toList, rfl, congrArg some String.ofList_toList⟩

/-- The body of a block comment is read off the text that is shown, unless that is clipped. -/
theorem commentBody?_of_clip (hblock : t.flags.blockComment = true) {limit : Option Nat}
    {body : List Char} (hbody : Shortest (OccursAt ['*', '/'] (body ++ ['*', '/'])) body)
    (htext : t.text = (clip limit (Lexeme.blockText body)).1) :
    t.commentBody? = if (clip limit (Lexeme.blockText body)).2 then none
      else some (.ofList body) := by
  cases hclipped : (clip limit (Lexeme.blockText body)).2 with
  | false =>
    rw [if_neg Bool.false_ne_true, commentBody?_block_iff hkind hblock, htext,
      clip_of_whole hclipped, String.toList_ofList, String.toList_ofList]
  | true =>
    rw [if_pos rfl, Option.eq_none_iff_forall_ne_some]
    intro other hother
    rw [commentBody?_block_iff hkind hblock, htext] at hother
    -- What is left of the text would show a `*/` before the first one.
    have hfront := clip_prefix limit (Lexeme.blockText body)
    have hlt := length_clip_lt hclipped
    rw [← hother, Lexeme.blockText, Lexeme.blockText, List.append_assoc, List.append_assoc,
      List.prefix_append_right_inj] at hfront
    have hle := hbody.least other.toList hfront
    rw [← String.length_toList, ← hother] at hlt
    simp only [Lexeme.blockText, List.length_append] at hlt
    omega

end CommentBody

/-! ### Forms of comments -/

namespace Form

/-- A comment is one of a line or a block. -/
theorem eq_of_comment {c : Char} {cs : List Char} (h : (front c cs).1.kind = .comment) :
    (∃ more, c :: cs = '/' :: '/' :: more ∧
      (front c cs).1 = ⟨.comment, .none, '/' :: '/' :: more.takeWhile (· ≠ '\n')⟩) ∨
    ∃ more, c :: cs = '/' :: '*' :: more ∧ (front c cs).1 = (block more).1 := by
  obtain rfl := eq_slash_of_comment h
  by_cases hline : cs.head? = some '/'
  · obtain ⟨more, rfl⟩ : ∃ more, cs = '/' :: more := ⟨_, eq_cons_tail hline⟩
    refine Or.inl ⟨more, rfl, ?_⟩
    rw [front_of_lineComment (slash_prefix_iff.mpr ⟨rfl, hline⟩)]
    rfl
  · by_cases hblock : cs.head? = some '*'
    · obtain ⟨more, rfl⟩ : ∃ more, cs = '*' :: more := ⟨_, eq_cons_tail hblock⟩
      exact Or.inr ⟨more, rfl, by rw [front_slash, if_neg hline, if_pos hblock, List.tail_cons]⟩
    · -- What is left for a slash is an operator.
      rw [front_slash, if_neg hline, if_neg hblock, operator] at h
      split at h <;> contradiction

theorem block_of_shortest {cs body : List Char} (h : Shortest (OccursAt ['*', '/'] cs) body) :
    (block cs).1 = ⟨.comment, { blockComment := true }, Lexeme.blockText body⟩ := by
  obtain ⟨behind, hcut⟩ := exists_cut?_of_shortest h
  rw [block, hcut]

theorem block_of_not_occursAt {cs : List Char} (h : ∀ body, ¬ OccursAt ['*', '/'] cs body) :
    (block cs).1 =
      ⟨.comment, { blockComment := true, unterminated := true }, '/' :: '*' :: cs⟩ := by
  rw [block, cut?_eq_none_iff.mpr h]

/-- A block comment is shown closed. -/
theorem block_eq (cs : List Char) : (block cs).1.kind = .comment ∧
    (block cs).1.flags.blockComment = true ∧
      (block cs).1.shown = Lexeme.blockText (Lexeme.blockBody cs) := by
  unfold block Lexeme.blockBody
  cases cut? ['*', '/'] cs with
  | none => exact ⟨rfl, rfl, rfl⟩
  | some parts => exact ⟨rfl, rfl, rfl⟩

end Form

/-! ### The comments of a scan -/

namespace Site

variable {source : List Char} (limit : Option Nat) (s : Site source)

/-- A token is flagged as clipped exactly if its text was. -/
theorem truncated_token :
    (s.token limit).flags.truncated = (clip limit s.passage.form.shown).2 := by
  rw [token, Passage.token, Token.Flags.union, form_passage, Form.truncated_front, Bool.false_or]

theorem blockComment_token :
    (s.token limit).flags.blockComment = s.passage.form.flags.blockComment :=
  Bool.or_false _

variable {limit} {s}

theorem lineCommentBody {cs : List Char} (hcs : s.first :: s.behind = '/' :: '/' :: cs)
    (hform : s.passage.form = ⟨.comment, .none, '/' :: '/' :: cs.takeWhile (· ≠ '\n')⟩) :
    LineCommentBody source (s.token limit) s.before cs where
  source_eq := by rw [← hcs, ← s.source_eq]
  span := by rw [span_token, word, hform]
  unterminated := by
    rw [unterminated_token, hform]
    rfl
  body htruncated := by
    have hkind : (s.token limit).kind = .comment := congrArg Form.kind hform
    have hline : (s.token limit).flags.blockComment = false := by
      rw [blockComment_token, hform]
      rfl
    have htext : (s.token limit).text = .ofList s.passage.form.shown :=
      clip_of_whole (by rw [← truncated_token, htruncated])
    rw [commentBody?_line_iff hkind hline, htext, hform, String.toList_ofList, String.toList_ofList]
    rfl

theorem commentBody?_token_of_block {cs : List Char} (hform : s.passage.form = (Form.block cs).1) :
    (s.token limit).commentBody? =
      if (s.token limit).flags.truncated then none else some (.ofList (Lexeme.blockBody cs)) := by
  obtain ⟨hkind, hblock, hshown⟩ := Form.block_eq cs
  rw [← hform] at hkind hblock hshown
  rw [truncated_token, hshown]
  apply commentBody?_of_clip hkind (by rw [blockComment_token, hblock])
    (Lexeme.shortest_blockBody cs)
  rw [← hshown]
  rfl

theorem blockCommentBody {cs : List Char} (hcs : s.first :: s.behind = '/' :: '*' :: cs)
    (hform : s.passage.form = (Form.block cs).1) :
    BlockCommentBody source (s.token limit) s.before cs where
  source_eq := by rw [← hcs, ← s.source_eq]
  closed body hbody := by
    have hclosed := hform.trans (Form.block_of_shortest hbody)
    refine ⟨by rw [span_token, word, hclosed]; rfl, by rw [unterminated_token, hclosed], ?_⟩
    intro hwhole
    rw [commentBody?_token_of_block hform, hwhole, if_neg Bool.false_ne_true,
      Lexeme.blockBody_of_shortest hbody]
  unclosed hnone := by
    have hopen := hform.trans (Form.block_of_not_occursAt hnone)
    refine ⟨by rw [span_token, word, hopen, ← hcs, ← s.source_eq],
      by rw [unterminated_token, hopen], ?_⟩
    intro hwhole
    rw [commentBody?_token_of_block hform, hwhole, if_neg Bool.false_ne_true,
      Lexeme.blockBody_of_not_occursAt hnone]
  clipped hclipped := by rw [commentBody?_token_of_block hform, hclipped, if_pos rfl]

end Site

/-- Where the comments of any scan end, and their bodies. -/
theorem comment_bodies_scan (source : String) (options : Options) :
    CommentBodies source options where
  line t ht hkind hline := by
    obtain ⟨s, rfl⟩ := Scanner.exists_site_of_mem_tokens ht
    rw [Site.kind_token] at hkind
    rw [Site.blockComment_token, s.form_passage] at hline
    rcases Form.eq_of_comment hkind with ⟨cs, hcs, hform⟩ | ⟨cs, hcs, hform⟩
    · exact ⟨s.before, cs, Site.lineCommentBody hcs (s.form_passage.trans hform)⟩
    · rw [hform, (Form.block_eq cs).2.1] at hline
      contradiction
  block t ht hkind hblock := by
    obtain ⟨s, rfl⟩ := Scanner.exists_site_of_mem_tokens ht
    rw [Site.kind_token] at hkind
    rw [Site.blockComment_token, s.form_passage] at hblock
    rcases Form.eq_of_comment hkind with ⟨cs, hcs, hform⟩ | ⟨cs, hcs, hform⟩
    · rw [hform] at hblock
      contradiction
    · exact ⟨s.before, cs, Site.blockCommentBody hcs (s.form_passage.trans hform)⟩
  whole hlimit t ht := by
    obtain ⟨s, rfl⟩ := Scanner.exists_site_of_mem_tokens ht
    rw [Site.truncated_token, hlimit]
    rfl

end UsageScan
