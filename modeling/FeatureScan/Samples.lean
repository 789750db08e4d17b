/-!
Snippets to try the program on.
-/

namespace FeatureScan

structure Sample where
  name : String
  title : String
  description : String
  code : String
  deriving Repr, DecidableEq

namespace Sample

def all : List Sample := [
  ⟨"css", "Modern CSS Grid", "CSS Grid with container queries and aspect ratio",
    String.join (([
      ".container \x7b",
      "  display: grid;",
      "  grid-template-columns: repeat(auto-fit, minmax(300px, 1fr));",
      "  gap: 2rem;",
      "  aspect-ratio: 16/9;",
      "  container-type: inline-size;",
      "\x7d",
      "",
      "@container (min-width: 400px) \x7b",
      "  .card \x7b",
      "    padding: 2rem;",
      "    border-radius: 1rem;",
      "  \x7d",
      "\x7d",
      "",
      ".card \x7b",
      "  background: linear-gradient(135deg, #667eea 0%, #764ba2 100%);",
      "  backdrop-filter: blur(10px);",
      "\x7d"]).map (· ++ "\n"))⟩,
  ⟨"javascript", "Modern JavaScript", "Async/await, fetch API, and ES modules",
    String.join (([
      "// Modern JavaScript with async/await and fetch",
      "const fetchUserData = async (userId) => \x7b",
      "  try \x7b",
      "    const response = await fetch(`/api/users/$\x7buserId\x7d`);",
      "    const userData = await response.json();",
      "",
      "    // Destructuring and optional chaining",
      "    const \x7b name, email, preferences = \x7b\x7d \x7d = userData;",
      "    const theme = preferences?.ui?.theme ?? 'light';",
      "",
      "    // Array methods and template literals",
      "    const notifications = userData.notifications",
      "      ?.filter(n => !n.read)",
      "      ?.map(n => (\x7b ...n, timestamp: new Date(n.created) \x7d));",
      "",
      "    return \x7b name, email, theme, notifications \x7d;",
      "  \x7d catch (error) \x7b",
      "    console.error('Failed to fetch user data:', error);",
      "    throw new Error('User data unavailable');",
      "  \x7d",
      "\x7d;",
      "",
      "// Top-level await and dynamic imports",
      "const userModule = await import('./user-utils.js');",
      "const currentUser = await fetchUserData('123');"]).map (· ++ "\n"))⟩,
  ⟨"html", "Advanced HTML", "Modern HTML with web components and forms",
    String.join (([
      "<!-- Modern HTML with web components and advanced forms -->",
      "<dialog id=\"user-modal\" class=\"modal\">",
      "  <form method=\"dialog\" class=\"modal-form\">",
      "    <h2>User Registration</h2>",
      "",
      "    <input type=\"email\" name=\"email\" required",
      "           placeholder=\"Enter your email\"",
      "           pattern=\"[a-z0-9._%+-]+@[a-z0-9.-]+\\.[a-z]\x7b2,\x7d$\">",
      "",
      "    <input type=\"url\" name=\"website\"",
      "           placeholder=\"Your website (optional)\">",
      "",
      "    <input type=\"tel\" name=\"phone\"",
      "           placeholder=\"Phone number\"",
      "           pattern=\"[0-9]\x7b3\x7d-[0-9]\x7b3\x7d-[0-9]\x7b4\x7d\">",
      "",
      "    <input type=\"date\" name=\"birthdate\" required>",
      "",
      "    <input type=\"range\" name=\"experience\"",
      "           min=\"1\" max=\"10\" value=\"5\">",
      "",
      "    <datalist id=\"skills\">",
      "      <option value=\"JavaScript\">",
      "      <option value=\"TypeScript\">",
      "      <option value=\"React\">",
      "    </datalist>",
      "",
      "    <button type=\"submit\">Register</button>",
      "  </form>",
      "</dialog>",
      "",
      "<my-custom-element data-theme=\"dark\">",
      "  <template shadowrootmode=\"open\">",
      "    <style>",
      "      :host \x7b display: block; \x7d",
      "      .content \x7b padding: 1rem; \x7d",
      "    </style>",
      "    <div class=\"content\">",
      "      <slot></slot>",
      "    </div>",
      "  </template>",
      "  <p>This is a custom element with shadow DOM!</p>",
      "</my-custom-element>"]).map (· ++ "\n"))⟩]

def lowerAscii (s : String) : List Char := s.toList.map Char.toLower

/-- The sample of a name, in any case of its letters. -/
def find? (name : String) : Option Sample := all.find? fun s => lowerAscii s.name == lowerAscii name

def names : String := String.intercalate ", " (all.map Sample.name)

end Sample
end FeatureScan
