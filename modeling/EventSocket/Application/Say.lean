import EventSocket.Term

/-!
The choices of the `say` application.
-/

namespace EventSocket

inductive SayType where
  | number | items | persons | messages | currency | timeMeasurement | currentDate | currentTime
  | currentDateTime | telephoneNumber | telephoneExtension | url | ipAddress | emailAddress
  | postalAddress | accountNumber | nameSpelled | namePhonetic | shortDateTime
  deriving DecidableEq

namespace SayType

def word : SayType → String
  | .number => "NUMBER"
  | .items => "ITEMS"
  | .persons => "PERSONS"
  | .messages => "MESSAGES"
  | .currency => "CURRENCY"
  | .timeMeasurement => "TIME_MEASUREMENT"
  | .currentDate => "CURRENT_DATE"
  | .currentTime => "CURRENT_TIME"
  | .currentDateTime => "CURRENT_DATE_TIME"
  | .telephoneNumber => "TELEPHONE_NUMBER"
  | .telephoneExtension => "TELEPHONE_EXTENSION"
  | .url => "URL"
  | .ipAddress => "IP_ADDRESS"
  | .emailAddress => "EMAIL_ADDRESS"
  | .postalAddress => "POSTAL_ADDRESS"
  | .accountNumber => "ACCOUNT_NUMBER"
  | .nameSpelled => "NAME_SPELLED"
  | .namePhonetic => "NAME_PHONETIC"
  | .shortDateTime => "SHORT_DATE_TIME"

def label : SayType → String
  | .number => "Number"
  | .items => "Items"
  | .persons => "Persons"
  | .messages => "Messages"
  | .currency => "Currency"
  | .timeMeasurement => "TimeMeasurement"
  | .currentDate => "CurrentDate"
  | .currentTime => "CurrentTime"
  | .currentDateTime => "CurrentDateTime"
  | .telephoneNumber => "TelephoneNumber"
  | .telephoneExtension => "TelephoneExtension"
  | .url => "Url"
  | .ipAddress => "IpAddress"
  | .emailAddress => "EmailAddress"
  | .postalAddress => "PostalAddress"
  | .accountNumber => "AccountNumber"
  | .nameSpelled => "NameSpelled"
  | .namePhonetic => "NamePhonetic"
  | .shortDateTime => "ShortDateTime"

instance : Term SayType where
  noun := "say type"
  terms := [
    .number, .items, .persons, .messages, .currency, .timeMeasurement, .currentDate,
    .currentTime, .currentDateTime, .telephoneNumber, .telephoneExtension, .url, .ipAddress,
    .emailAddress, .postalAddress, .accountNumber, .nameSpelled, .namePhonetic, .shortDateTime]
  word := word
  label := label

end SayType

inductive SayMethod where
  | notApplicable | pronounced | iterated | counted
  deriving DecidableEq

namespace SayMethod

def word : SayMethod → String
  | .notApplicable => "N/A"
  | .pronounced => "PRONOUNCED"
  | .iterated => "ITERATED"
  | .counted => "COUNTED"

def label : SayMethod → String
  | .notApplicable => "NotApplicable"
  | .pronounced => "Pronounced"
  | .iterated => "Iterated"
  | .counted => "Counted"

instance : Term SayMethod where
  noun := "say method"
  terms := [
    .notApplicable, .pronounced, .iterated, .counted]
  word := word
  label := label

end SayMethod

/-- The grammatical gender, in languages that need one. -/
inductive SayGender where
  | feminine | masculine | neuter
  deriving DecidableEq

namespace SayGender

def word : SayGender → String
  | .feminine => "FEMININE"
  | .masculine => "MASCULINE"
  | .neuter => "NEUTER"

def label : SayGender → String
  | .feminine => "Feminine"
  | .masculine => "Masculine"
  | .neuter => "Neuter"

instance : Term SayGender where
  noun := "say gender"
  terms := [
    .feminine, .masculine, .neuter]
  word := word
  label := label

end SayGender

end EventSocket
