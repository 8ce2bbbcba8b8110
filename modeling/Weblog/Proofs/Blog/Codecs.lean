import Mathlib.Tactic.Common
import Weblog.Blog.Store
import Weblog.Proofs.Json.Codecs
/-!
# The data of a blog read back

* `Post.lawful_codec`, `Comment.lawful_codec`, `Category.lawful_codec`, `BlogData.lawful_codec`:
  records are read back from what they are written as.
* **`Store.parse_render`**: all data is read back from its text.
-/

namespace Weblog

open Json Codec

theorem lawful_optional_text : (optional text).Lawful :=
  lawful_optional lawful_text fun _ h => Json.noConfusion h

theorem Post.lawful_codec : Post.codec.Lawful := by
  refine lawful_record (fun _ => rfl) (by decide) fun f hf => ?_
  simp only [fields, List.mem_cons, List.not_mem_nil, or_false] at hf
  rcases hf with rfl | rfl | rfl | rfl | rfl | rfl | rfl | rfl | rfl | rfl | rfl
  all_goals first
    | exact lawful_text
    | exact lawful_optional_text
    | exact lawful_list lawful_text
    | exact lawful_count

theorem Comment.lawful_codec : Comment.codec.Lawful := by
  refine lawful_record (fun _ => rfl) (by decide) fun f hf => ?_
  simp only [fields, List.mem_cons, List.not_mem_nil, or_false] at hf
  rcases hf with rfl | rfl | rfl | rfl | rfl | rfl | rfl | rfl
  all_goals first
    | exact lawful_text
    | exact lawful_optional_text
    | exact lawful_list lawful_text

theorem Category.lawful_codec : Category.codec.Lawful := by
  refine lawful_record (fun _ => rfl) (by decide) fun f hf => ?_
  simp only [fields, List.mem_cons, List.not_mem_nil, or_false] at hf
  rcases hf with rfl | rfl | rfl | rfl <;> exact lawful_text

theorem BlogData.lawful_codec : BlogData.codec.Lawful := by
  refine lawful_record (fun _ => rfl) (by decide) fun f hf => ?_
  simp only [fields, List.mem_cons, List.not_mem_nil, or_false] at hf
  rcases hf with rfl | rfl | rfl
  · exact lawful_list Post.lawful_codec
  · exact lawful_list Comment.lawful_codec
  · exact lawful_list Category.lawful_codec

/-- **All data is read back from its text.** -/
theorem Store.parse_render (data : BlogData) : parse (render data) = .ok data := by
  rw [parse, render, BlogData.lawful_codec.ofText_render]
  rfl

end Weblog
