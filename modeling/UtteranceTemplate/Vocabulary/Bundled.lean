import UtteranceTemplate.Catalogue

/-!
The vocabulary for templates that come without one of their own.
-/

namespace UtteranceTemplate

namespace Vocabulary

def services : List String :=
  ["google slides", "slides", "google docs", "google scholar", "calendar",
    "google calendar", "google drive", "google sheets", "sheets", "spreadsheets",
    "goodreads", "mdn", "coursera",
    "gmail", "mail", "email", "google mail", "amazon", "wikipedia", "wiki",
    "yelp", "twitter",
    "reddit", "amazon music", "google music", "google play music", "pandora",
    "soundcloud",
    "sound cloud", "tunein", "tune in", "tunein radio", "tune in radio",
    "vimeo", "netflix",
    "apple maps", "google maps", "maps", "open street maps", "open maps",
    "stubhub", "stub hub",
    "ticketmaster", "ticket master", "google translate", "translate",
    "instagram", "insta",
    "linkedin", "quora", "pinterest", "pin", "facebook", "stackexchange",
    "stack exchange",
    "dropbox", "dictionary.com", "dictionary", "thesaurus", "duckduckgo",
    "duck duck go",
    "duckduckgo images", "duck duck go images", "google images", "images"]

def musicServices : List String :=
  ["youtube", "spotify", "video"]

def languages : List String :=
  ["czech", "danish", "dutch", "english", "finnish", "french", "german",
    "hungarian", "italian", "norwegian", "polish", "portuguese", "romanian",
    "russian", "slovak", "slovenian", "spanish", "swedish", "turkish", "ukrainian"]

/-- The numbers from one to nine, in digits and in words. -/
def smallNumbers : List String :=
  ["1", "2", "3", "4", "5", "6", "7", "8", "9", "one", "two", "three", "four",
    "five", "six", "seven", "eight", "nine"]

def bundled : Vocabulary :=
  ⟨[("serviceName".text, services.map String.text),
    ("musicServiceName".text, musicServices.map String.text),
    ("lang".text, languages.map String.text),
    ("smallNumber".text, smallNumbers.map String.text)]⟩

end Vocabulary

end UtteranceTemplate
