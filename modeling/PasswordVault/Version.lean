/-!
# Version

The version of this library, as it is reported to those who embed it.
-/

namespace PasswordVault

def version : String := "0.3.0"

end PasswordVault
