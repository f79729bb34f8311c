/-!
# Time zone data

The zones of the world as lines of text. The lines of a zone begin with its names after an
equals sign. After an at sign follow the offsets from UTC in seconds that its clocks have
had, which are called A, B and so on; the first of them holds before all changes. After a
tilde follow the two offsets of the rule for the years after the last change, and the turns
from the first to the second and back, each as a month, a week, a day and a second. All
other lines are changes: the time since the change before in hexadecimal quarters of an
hour, or in seconds after a point, and the offset from then on. The first time counts
from 2^32 seconds before the beginning of 1970.
-/
namespace TypedTemplate.ZoneTable

/-- The lines of all zones, in the order of their first names. -/
def lines : List String := [
  "=Africa/Abidjan Africa/Accra Africa/Bamako Africa/Banjul Africa/Conakry Africa/Dakar",
  "=Africa/Freetown Africa/Lome Africa/Nouakchott Africa/Ouagadougou Africa/Timbuktu",
  "=Atlantic/Reykjavik Atlantic/St_Helena Iceland",
  "@-968 0",
  ".92e69248B",
  "=Africa/Algiers",
  "@732 561 0 3600 7200",
  ".6bc99b24B.2596b52bC.9e728a1D28e0C4140D49e0C3960D4f20C36c0D51c0C3180D5e80C3540D2520C9c000D",
  "1984C24c8D2321cE467cD4204E3e98D90c0C4fb64D3dafcC44c40D39c0C30004D78c0E4444D9598C4444D46e4C",
  "443cD",
  "=Africa/Bissau",
  "@-3740 -3600 0",
  ".92e69c90B21b520C",
  "=Africa/Cairo Egypt",
  "@7509 7200 10800",
  "~B C 4.5.5/0 10.5.4/86400",
  ".7dbd4dabB.4ad66735C1d3cB4984C39bcB49e4C4e5cB3a84C503cB3904C503cB3e44C4a9cB62a04C35fcB4f84C",
  "395cB4f88C3904B503cC3904B4fdcC3904B4fdcC3904B4fdcC3904B503cC3904B4fdcC3904B4fdcC3964B4f7cC",
  "3964B4fdcC3964B4f7cC3964B4f7cC3964B4f7cC3964B4fdcC3964B4f7cC3964B4f7cC3964B4f7cC3964B4fdcC",
  "3964B4f7cC3964B4f7cC3964B4f7cC3964B4fdcC3964B4f7cC3964B6f5cC1984B6a7cC1e64B4fdcC3964B4f7cC",
  "3964B4f7cC3964B4f7cC3964B4fdcC3964B515cC3784B4f7cC3964B4f7cC3964B4fdcC3964B4f7cC3964B4f7cC",
  "3964B4e58C39bcB4ec4C39bcB4ec4C39bcB4ec4C39bcB5164C39bcB4ec4C39bcB4ec4C39bcB4ec4C39bcB4ec4C",
  "39bcB5164C39bcB4ec4C39bcB4ec4C371cB5164C31dcB56a4C2f3cB5944C2c9cB5e84C269cBb44C7dcB1f024CfbcB",
  "d24C14fcB49804C",
  "=Africa/Casablanca",
  "@-1820 0 3600",
  ".9651f99cB.30ad1ae4C197cB24c4C310dcB270c4C347cB8e114C2cccB399c4C19dcBe404C227cB6664C383cB5c44C",
  "17fcB30124Cf5fcBbfe24C227cB6664C1e5cB5f44C24bcB5944C2c9cB666cC1ec0Bba0Cf60B4ec0C1a40Bcc0C1d40B",
  "39c0C21c0Bd20C1fe0B39c0C1ce0Bd20C24c0B39c0C1a40Bd20C2a00B3720C1500Bfc0C2ca0B3720C1260Bd20C",
  "78c0Bd20C7620Bfc0C7620Bd20C7620Bfc0C7620Bd20C78c0Bd20C7620Bfc0C7620Bd20C78c0Bd20C7620Bfc0C",
  "7620Bd20C7620Bfc0C7620Bd20C78c0Bd20C7620Bfc0C7620Bd20C7620Bfc0C7620Bfc0C7620Bd20C7620Bfc0C",
  "7620Bd20C78c0Bd20C7620Bfc0C7620Bd20C7620Bfc0C7620Bfc0C7620Bd20C7620Bfc0C7620Bd20C78c0Bd20C",
  "7620Bfc0C7620Bd20C7620Bfc0C7620Bfc0C7620Bd20C7620Bfc0C7620Bd20C78c0Bd20C7620Bfc0C7620Bd20C",
  "7620Bfc0C7620Bfc0C7620Bd20C7620Bfc0C7620Bd20C78c0Bd20C7620Bfc0C7620Bd20C7620Bfc0C7620Bfc0C",
  "7620Bd20C7620Bfc0C7620Bd20C78c0Bd20C7620Bfc0C7620Bd20C7620Bfc0C7620Bfc0C7620Bd20C7620Bfc0C",
  "7620Bd20C78c0Bd20C7620Bfc0C7620Bd20C7620Bfc0C7620Bd20C78c0Bd20C7620Bfc0C7620Bd20C78c0Bd20C",
  "7620Bfc0C",
  "=Africa/Ceuta",
  "@-1276 0 3600 7200",
  "~C D 3.5.0/7200 10.5.0/10800",
  ".7e36b500B9479cC39bcB2f4c4C4024Bd1fcC3f04B46dcC41a4B4980C41a0B14ae70C2cccB399c4C19dcBe404C",
  "227cB6664C383cB5c44C17fcB30124C11704D4440C4440D4440C4440D4440C4440D4440C4440D46e0C4440D4440C",
  "4440D4440C4440D4440C4440D4440C4440D4440C46e0D",
  "=Africa/El_Aaiun",
  "@-3168 -3600 0 3600",
  ".bc48f0e0B.4f88bfb0C65cD227cC6664D383cC5c44D17fcCff544D227cC6664D1e5cC5f44D24bcC5944D2c9cC",
  "666cD1ec0Cba0Df60C4ec0D1a40Ccc0D1d40C39c0D21c0Cd20D1fe0C39c0D1ce0Cd20D24c0C39c0D1a40Cd20D2a00C",
  "3720D1500Cfc0D2ca0C3720D1260Cd20D78c0Cd20D7620Cfc0D7620Cd20D7620Cfc0D7620Cd20D78c0Cd20D7620C",
  "fc0D7620Cd20D78c0Cd20D7620Cfc0D7620Cd20D7620Cfc0D7620Cd20D78c0Cd20D7620Cfc0D7620Cd20D7620Cfc0D",
  "7620Cfc0D7620Cd20D7620Cfc0D7620Cd20D78c0Cd20D7620Cfc0D7620Cd20D7620Cfc0D7620Cfc0D7620Cd20D",
  "7620Cfc0D7620Cd20D78c0Cd20D7620Cfc0D7620Cd20D7620Cfc0D7620Cfc0D7620Cd20D7620Cfc0D7620Cd20D",
  "78c0Cd20D7620Cfc0D7620Cd20D7620Cfc0D7620Cfc0D7620Cd20D7620Cfc0D7620Cd20D78c0Cd20D7620Cfc0D",
  "7620Cd20D7620Cfc0D7620Cfc0D7620Cd20D7620Cfc0D7620Cd20D78c0Cd20D7620Cfc0D7620Cd20D7620Cfc0D",
  "7620Cfc0D7620Cd20D7620Cfc0D7620Cd20D78c0Cd20D7620Cfc0D7620Cd20D7620Cfc0D7620Cd20D78c0Cd20D",
  "7620Cfc0D7620Cd20D78c0Cd20D7620Cfc0D",
  "=Africa/Johannesburg Africa/Maseru Africa/Mbabane",
  "@6720 5400 7200 10800",
  ".6d7b4140B.14cb8e28C152a06D443cC4444D443cC",
  "=Africa/Juba",
  "@7588 7200 10800",
  ".b6a3dadcB.49fa3d04C3e9cB49e4C3efcB4a44C3efcB4984C3f5cB4924C3fbcB48c4C401cB4864C40dcB47a4C",
  "413cB49e4C3efcB4984C3f5cB4924C401cB4864C407cB4804C40dcB47a4C413cB49e4C3f5cB4924C3fbcB7a014C",
  "b42ccB",
  "=Africa/Khartoum",
  "@7808 7200 10800",
  ".b6a3da00B.49fa3de0C3e9cB49e4C3efcB4a44C3efcB4984C3f5cB4924C3fbcB48c4C401cB4864C40dcB47a4C",
  "413cB49e4C3efcB4984C3f5cB4924C401cB4864C407cB4804C40dcB47a4C413cB49e4C3f5cB4924C3fbcB7a014C",
  "9854cB",
  "=Africa/Lagos Africa/Bangui Africa/Brazzaville Africa/Douala Africa/Kinshasa",
  "=Africa/Libreville Africa/Luanda Africa/Malabo Africa/Niamey Africa/Porto-Novo",
  "@815 0 1800 3600",
  ".86ab70d1B.5a4ef2fA.a59e3d1C.aa7aba7D",
  "=Africa/Maputo Africa/Blantyre Africa/Bujumbura Africa/Gaborone Africa/Harare Africa/Kigali",
  "=Africa/Lubumbashi Africa/Lusaka",
  "@7818 7200",
  ".8d42d576B",
  "=Africa/Monrovia",
  "@-2588 -2670 0",
  ".a05f6c9cB.636aedd2C",
  "=Africa/Nairobi Africa/Addis_Ababa Africa/Asmara Africa/Asmera Africa/Dar_es_Salaam",
  "=Africa/Djibouti Africa/Kampala Africa/Mogadishu Indian/Antananarivo Indian/Comoro",
  "=Indian/Mayotte",
  "@8836 9000 10800 9900",
  ".8bffd1fcB.25ef085cCcf5eB3bd62D2fc3fC",
  "=Africa/Ndjamena",
  "@3612 3600 7200",
  ".92e68064B.7f7ff10cC36bcB",
  "=Africa/Sao_Tome",
  "@1616 -2205 0 3600",
  ".5e3cfd30B.34a99150C38b6e4D88e0C",
  "=Africa/Tripoli Libya",
  "@3164 3600 7200",
  ".a1f2c124B.3bc8efecC1d94Bf2acC1f74Beee4C22dcB19b04Cc4e5cB21c4C449cB4444C449cB44a4C449cB4624C",
  "42bcB4564C443cB4384C449cB44a4C449cB4444C449cB50a4C36ddcB45c4C85924B3420C",
  "=Africa/Tunis",
  "@2444 561 3600 7200",
  ".594613f4B.381a3c5bC.34da3891D5160C2520Ddc80C39c4D5948C3720D71cC304D3cbcC4444D4674C420cD3e94C",
  "10eae4D3720C5220D3960C52c20D2b80C4440D4440C5220D3900C7cda0D3904C4264D5160C3720D5160C39c0D4ec0C",
  "=Africa/Windhoek",
  "@4104 5400 7200 10800 3600",
  ".6d7b4b78B.14cb83f0C152a06D443cC1b497cE3eacC4ebcE39c4C515cE3724C515cE39c4C4ebcE39c4C4ebcE39c4C",
  "4ebcE39c4C4ebcE39c4C515cE3724C515cE39c4C4ebcE39c4C4ebcE39c4C4ebcE39c4C4ebcE39c4C515cE39c4C",
  "4ebcE39c4C4ebcE39c4C4ebcE39c4C4ebcE39c4C515cE3724C515cE39c4C4ebcE39c4C4ebcE39c4C4ebcE39c4C",
  "=America/Adak America/Atka US/Aleutian",
  "@44002 -42398 -39600 -36000 -32400",
  "~D E 3.2.0/7200 11.1.0/7200",
  ".3fc2fdd1B.3dc45c8dC.4e01ea72D1f25cCc9cc4D443cC4444D443cC4444D46dcC4444D443cC4444D443cC1a44D",
  "6e3cC2ca4D5bdcC4444D46dcC41a4D46dcC4444D443cC4444D443cC4444D443cC4444D443cC4444D46dcC41a4D",
  "8b1cE443cD4444E443cD4444E443cD3c64E4c1cD3c64E4ebcD39c4E4ebcD39c4E4ebcD3c64E4c1cD3c64E4c1cD",
  "3c64E4ebcD39c4E4ebcD39c4E4ebcD3c64E4c1cD3c64E4c1cD3c64E4c1cD3c64E4ebcD39c4E4ebcD39c4E4ebcD",
  "3c64E4c1cD3c64E4c1cD3c64E4ebcD39c4E4ebcD39c4E4ebcD31e4E",
  "=America/Anchorage US/Alaska",
  "@50424 -35976 -36000 -32400 -28800",
  "~D E 3.2.0/7200 11.1.0/7200",
  ".3fc2fdd1B.3dc44377C.4e01f578D1f25cCc9cc4D443cC4444D443cC4444D46dcC4444D443cC4444D443cC1a44D",
  "6e3cC2ca4D5bdcC4444D46dcC41a4D46dcC4444D443cC4444D443cC4444D443cC4444D443cC4444D46dcC41a4D",
  "8b1cE443cD4444E443cD4444E443cD3c64E4c1cD3c64E4ebcD39c4E4ebcD39c4E4ebcD3c64E4c1cD3c64E4c1cD",
  "3c64E4ebcD39c4E4ebcD39c4E4ebcD3c64E4c1cD3c64E4c1cD3c64E4c1cD3c64E4ebcD39c4E4ebcD39c4E4ebcD",
  "3c64E4c1cD3c64E4c1cD3c64E4ebcD39c4E4ebcD39c4E4ebcD31e4E",
  "=America/Araguaina",
  "@-11568 -10800 -7200",
  ".96aa7430B.2164d5b0C43b0B4564C437cB8eb04C3300B55e0C2d5cB5b84C2dbcB5b84C21bcB5c3a4C1f1cB7e04C",
  "161cB5be4C21bcB5be4C2cfcB5be4C2d5cB974a4C31dcB5404C29fcB5ee4C275cB5e84C275cB6124C2c9cB30904C",
  "2c9cB5944C31dcB5704C36bcB5404C31dcB5404C371cB5404C31dcB5944C2f3cB6124C275cB52da4C2c9cB",
  "=America/Argentina/Buenos_Aires America/Buenos_Aires",
  "@-14028 -15408 -14400 -10800 -7200",
  ".729ca84cB.2ff5e6e4C.13e8c310D2d5cC49e4D33bcC5be4D2cfcC5be4D2cfcC5be4D2cfcC5be4D2d5cC5be4D",
  "2cfcC5be4D2cfcC5be4D2cfcC5be4D2d5cC2dc4D82dcC2dc4Df59cC1c24D1457cC5044D9185cC1c24D1cdcC5584D",
  "335cC5584D335cC5584D3f5cC4444D46dcC4444D443cC4444D24d1cE24bcD7ce04E233cD5404E347cD56a4E31dcD",
  "56a4E31dcD56a4E347cD7ed24E1cdcD5164E371cD",
  "=America/Argentina/Catamarca America/Argentina/ComodRivadavia America/Catamarca",
  "@-15788 -15408 -14400 -10800 -7200",
  ".729caf2cB.2ff5e004C.13e8c310D2d5cC49e4D33bcC5be4D2cfcC5be4D2cfcC5be4D2cfcC5be4D2d5cC5be4D",
  "2cfcC5be4D2cfcC5be4D2cfcC5be4D2d5cC2dc4D82dcC2dc4Df59cC1c24D1457cC5044D9185cC1c24D1cdcC5584D",
  "335cC5584D335cC5584D3f5cC4444D46dcC4444D443cC4444D24d1cE24bcD7ce04E233cD5404E347cD56a4E31dcC",
  "56a8E31d8D56a4E347cD60304C724D1e2fcE1cdcD",
  "=America/Argentina/Cordoba America/Cordoba America/Rosario",
  "@-15408 -14400 -10800 -7200",
  ".a2928f30B.13e8c310C2d5cB49e4C33bcB5be4C2cfcB5be4C2cfcB5be4C2cfcB5be4C2d5cB5be4C2cfcB5be4C",
  "2cfcB5be4C2cfcB5be4C2d5cB2dc4C82dcB2dc4Cf59cB1c24C1457cB5044C9185cB1c24C1cdcB5584C335cB5584C",
  "335cB5584C3f5cB4444C46dcB4444C443cB4444C24d1cD24bcC7ce04D233cC5404D347cC56a4D31dcB56a8D31d8C",
  "56a4D347cC7ed24D1cdcC5164D371cC",
  "=America/Argentina/Jujuy America/Jujuy",
  "@-15672 -15408 -14400 -10800 -7200",
  ".729caeb8B.2ff5e078C.13e8c310D2d5cC49e4D33bcC5be4D2cfcC5be4D2cfcC5be4D2cfcC5be4D2d5cC5be4D",
  "2cfcC5be4D2cfcC5be4D2cfcC5be4D2d5cC2dc4D82dcC2dc4Df59cC1c24D1457cC5044D9185cC1c24D1cdcC5584D",
  "335cC5584D335cC5584D3f5cC4444D46dcC4444D443cC4444D24d1cE24bcD7ce04E233cD5404E347cC5948D347cC",
  "4c24E3718D56a4E347cD7ed24E1cdcD",
  "=America/Argentina/La_Rioja",
  "@-16044 -15408 -14400 -10800 -7200",
  ".729cb02cB.2ff5df04C.13e8c310D2d5cC49e4D33bcC5be4D2cfcC5be4D2cfcC5be4D2cfcC5be4D2d5cC5be4D",
  "2cfcC5be4D2cfcC5be4D2cfcC5be4D2d5cC2dc4D82dcC2dc4Df59cC1c24D1457cC5044D9185cC1c24D1cdcC5584D",
  "335cC5584D335cC5584D3f5cC4444D46dcC4444D443cC4444D24d1cE24bcD7ce04E233cD5404E347cD56a4E311cC",
  "1928D3e3cE31dcD56a4E347cD60304C724D1e2fcE1cdcD",
  "=America/Argentina/Mendoza America/Mendoza",
  "@-16516 -15408 -14400 -10800 -7200",
  ".729cb204B.2ff5dd2cC.13e8c310D2d5cC49e4D33bcC5be4D2cfcC5be4D2cfcC5be4D2cfcC5be4D2d5cC5be4D",
  "2cfcC5be4D2cfcC5be4D2cfcC5be4D2d5cC2dc4D82dcC2dc4Df59cC1c24D1457cC5044D9185cC1c24D1cdcC5584D",
  "335cC5584D335cC5584D3f5cC4444D46dcC4444D443cC4444D24d1cE24bcD7ce04E233cD5404E347cC5468D335cC",
  "5584D33bcC56a4E3478D5ffa4C2f44D1be3cE1cdcD",
  "=America/Argentina/Rio_Gallegos",
  "@-16612 -15408 -14400 -10800 -7200",
  ".729cb264B.2ff5dcccC.13e8c310D2d5cC49e4D33bcC5be4D2cfcC5be4D2cfcC5be4D2cfcC5be4D2d5cC5be4D",
  "2cfcC5be4D2cfcC5be4D2cfcC5be4D2d5cC2dc4D82dcC2dc4Df59cC1c24D1457cC5044D9185cC1c24D1cdcC5584D",
  "335cC5584D335cC5584D3f5cC4444D46dcC4444D443cC4444D24d1cE24bcD7ce04E233cD5404E347cD56a4E31dcD",
  "56a4E31dcD56a4E347cD60304C724D1e2fcE1cdcD",
  "=America/Argentina/Salta",
  "@-15700 -15408 -14400 -10800 -7200",
  ".729caed4B.2ff5e05cC.13e8c310D2d5cC49e4D33bcC5be4D2cfcC5be4D2cfcC5be4D2cfcC5be4D2d5cC5be4D",
  "2cfcC5be4D2cfcC5be4D2cfcC5be4D2d5cC2dc4D82dcC2dc4Df59cC1c24D1457cC5044D9185cC1c24D1cdcC5584D",
  "335cC5584D335cC5584D3f5cC4444D46dcC4444D443cC4444D24d1cE24bcD7ce04E233cD5404E347cD56a4E31dcC",
  "56a8E31d8D56a4E347cD7ed24E1cdcD",
  "=America/Argentina/San_Juan",
  "@-16444 -15408 -14400 -10800 -7200",
  ".729cb1bcB.2ff5dd74C.13e8c310D2d5cC49e4D33bcC5be4D2cfcC5be4D2cfcC5be4D2cfcC5be4D2d5cC5be4D",
  "2cfcC5be4D2cfcC5be4D2cfcC5be4D2d5cC2dc4D82dcC2dc4Df59cC1c24D1457cC5044D9185cC1c24D1cdcC5584D",
  "335cC5584D335cC5584D3f5cC4444D46dcC4444D443cC4444D24d1cE24bcD7ce04E233cD5404E347cD56a4E311cC",
  "1928D3e3cE31dcD56a4E347cD602a4C14a4D1d5dcE1cdcD",
  "=America/Argentina/San_Luis",
  "@-15924 -15408 -14400 -10800 -7200",
  ".729cafb4B.2ff5df7cC.13e8c310D2d5cC49e4D33bcC5be4D2cfcC5be4D2cfcC5be4D2cfcC5be4D2d5cC5be4D",
  "2cfcC5be4D2cfcC5be4D2cfcC5be4D2d5cC2dc4D82dcC2dc4Df59cC1c24D1457cC5044D9185cC1c24D1cdcC5584D",
  "335cC5584D335cC5584D3f5cC4444D46dcC4444D443cC4444D24d1cE24bcD7ce04E233cD5404E383cC50a8D335cC",
  "2284D6f47cC14a4D1d5dcE83cD1204C5164D371cC5164D",
  "=America/Argentina/Tucuman",
  "@-15652 -15408 -14400 -10800 -7200",
  ".729caea4B.2ff5e08cC.13e8c310D2d5cC49e4D33bcC5be4D2cfcC5be4D2cfcC5be4D2cfcC5be4D2d5cC5be4D",
  "2cfcC5be4D2cfcC5be4D2cfcC5be4D2d5cC2dc4D82dcC2dc4Df59cC1c24D1457cC5044D9185cC1c24D1cdcC5584D",
  "335cC5584D335cC5584D3f5cC4444D46dcC4444D443cC4444D24d1cE24bcD7ce04E233cD5404E347cD56a4E31dcC",
  "56a8E31d8D56a4E347cD60304C484D1e59cE1cdcD5164E371cD",
  "=America/Argentina/Ushuaia",
  "@-16392 -15408 -14400 -10800 -7200",
  ".729cb188B.2ff5dda8C.13e8c310D2d5cC49e4D33bcC5be4D2cfcC5be4D2cfcC5be4D2cfcC5be4D2d5cC5be4D",
  "2cfcC5be4D2cfcC5be4D2cfcC5be4D2d5cC2dc4D82dcC2dc4Df59cC1c24D1457cC5044D9185cC1c24D1cdcC5584D",
  "335cC5584D335cC5584D3f5cC4444D46dcC4444D443cC4444D24d1cE24bcD7ce04E233cD5404E347cD56a4E31dcD",
  "56a4E31dcD56a4E347cD60244C7e4D1e2fcE1cdcD",
  "=America/Asuncion",
  "@-13840 -14400 -10800",
  ".b817f590B.4d13e4b0Ccd1cBcd84C38fcB5044C389cB5044C389cB5044C443cB44a4C449cB44a4C443cB44a4C",
  "443cB44a4C443cB44a4C449cB44a4C443cB44a4C443cB44a4C443cB44a4C449cB44a4C443cB4c84C3c5cB44a4C",
  "443cB4684C371cB51c4C425cB4504C37dcB5104C377cB5164C38fcB5224C347cB5404C371cB5164C39bcB4ec4C",
  "39bcB4ec4C39bcB5164C443cB3724C515cB39c4C4ebcB4984C371cB5164C371cB5164C371cB5404C347cB5404C",
  "347cB5404C419cB41a4C46dcB41a4C46dcB4444C3efcB4984C3efcB4984C3efcB4984C419cB46e4C419cB46e4C",
  "419cB4984C3efcB4984C3efcB4984C419cB46e4C419cB46e4C419cB46e4C419cB4984C",
  "=America/Bahia",
  "@-9244 -10800 -7200",
  ".96aa6b1cB.2164dec4C43b0B4564C437cB8eb04C3300B55e0C2d5cB5b84C2dbcB5b84C21bcB5c3a4C1f1cB7e04C",
  "161cB5be4C21bcB5be4C2cfcB5be4C2d5cB974a4C31dcB5404C29fcB5ee4C275cB5e84C275cB6124C2c9cB5e84C",
  "2c9cB5be4C29fcB6124C24bcB6124C2f3cB5944C2f3cB5944C2c9cB5944C31dcB5704C36bcB5404C31dcB5404C",
  "371cB5404C31dcB5944C2f3cB6124C275cB4a284C31dcB",
  "=America/Bahia_Banderas",
  "@-25260 -25200 -21600 -18000",
  ".a5b6e870B2e8c0C1d63cB3e44C39bcB44a4C5621cB1cde2cC4c1cB3c64C4c1cB3c64C4c1cB3c64C4ebcB39c4C",
  "4ebcB46e4C371cB46e4C4c1cB3c64C4c1cB3c64C4ebcB39c4C4ebcB39c4C4ebcB39c4C4ebcB3c64C4c1cB3c64C",
  "4c1cB3c64D4eb8C39c4D4ebcC39c4D4ebcC3c64D4c1cC3c64D4c1cC3c64D4c1cC3c64D4ebcC39c4D4ebcC39c4D",
  "4ebcC3c64D4c1cC3c64D4c1cC3c64D4ebcC39c4D4ebcC",
  "=America/Barbados",
  "@-14309 -14400 -10800 -12600",
  ".9240a965B.39a3226bC3244B5b7cC2f44B51bcD3964B118620C29fcB4984C3efcB4984C3efcB4c24C3b3cB",
  "=America/Belem",
  "@-11636 -10800 -7200",
  ".96aa7474B.2164d56cC43b0B4564C437cB8eb04C3300B55e0C2d5cB5b84C2dbcB5b84C21bcB5c3a4C1f1cB7e04C",
  "161cB5be4C21bcB5be4C2cfcB5be4C2d5cB974a4C31dcB5404C29fcB5ee4C275cB",
  "=America/Belize",
  "@-21168 -21600 -19800 -18000",
  ".935ed9b0B.c406230C2f3eB5942C31deB56a2C31deB56a2C31deB5942C2f3eB5942C2f3eB5942C31deB56a2C31deB",
  "56a2C31deB56a2C31deB5942C2f3eB5942C2f3eB5942C31deB56a2C31deB56a2C31deB5942C2f3eB5942C2f3eB",
  "5942C2f3eB5942C31deB56a2C31deB56a2C31deB5942C2f3eB5942C2f3eB5942C31deB31e2D1db1cBf6c4C31deB",
  "56a2C31deB56a2C31deB5942C2f3eB5942C2f3eB5942C31deB56a2C31deB56a2C31deB56a2C31deB5942C2f3eB",
  "5942C2f3eB5942C31deB56a2C31deB56a2C31deB5942C2f3eB5942C2f3eB5942C2f3eB5942C31deB56a2C31deB",
  "56a2C31deB5942C2f3eB31c82D18bcB4bcc4D14fcB",
  "=America/Boa_Vista",
  "@-14560 -14400 -10800",
  ".96aa7fe0B.2164d810C43b0B4564C437cB8eb04C3300B55e0C2d5cB5b84C2dbcB5b84C21bcB5c3a4C1f1cB7e04C",
  "161cB5be4C21bcB5be4C2cfcB5be4C2d5cB974a4C31dcB5404C29fcB5ee4C275cB63c04C371cB5404C29cB",
  "=America/Bogota",
  "@-17776 -18000 -14400",
  ".98585570B.91ab1de0C68fcB",
  "=America/Boise",
  "@-27889 -28800 -25200 -21600",
  "~C D 3.2.0/7200 11.1.0/7200",
  ".5e041ac0B126278C4ebcB39c4C4ebcB1e5a4Ca079cD1f25cCb8bc4D443cC4444D443cC4444D443cC4444D443cC",
  "4444D46dcC4444D443cC4444D443cC24c4D63bcC2ca4D5bdcC4444D46dcC41a4D46dcC4444D443cC4444D443cC",
  "4444D443cC4444D443cC4444D46dcC41a4D46dcC4444D443cC4444D443cC4444D443cC3c64D4c1cC3c64D4ebcC",
  "39c4D4ebcC39c4D4ebcC3c64D4c1cC3c64D4c1cC3c64D4ebcC39c4D4ebcC39c4D4ebcC3c64D4c1cC3c64D4c1cC",
  "3c64D4c1cC3c64D4ebcC39c4D4ebcC39c4D4ebcC3c64D4c1cC3c64D4c1cC3c64D4ebcC39c4D4ebcC39c4D4ebcC",
  "31e4D",
  "=America/Cambridge_Bay",
  "@0 -25200 -21600 -18000",
  "~B C 3.2.0/7200 11.1.0/7200",
  ".a1f2cd80Bbd444C1f25cBe38e4C443cB4444C443cB4444C443cB4444C443cB4444C46dcB41a4C46dcB4444C443cB",
  "4444C443cB4444C443cB4444C443cB4444C46dcB41a4C46dcB4444C443cB4444C443cB4444C443cB3c64C4c1cB",
  "3c64C4ebcB39c4C4ebcB39c4C4ebcB3c64C4c1cB3c64C4c1cB3c64C4ebcB39c4C4ebcB39c4C4ebcB3c64C4c1cB",
  "3c64C4c1cB3c64C4c1cB3c64C887cD5154C85ecB3c64C4c1cB3c64C4c1cB3c64C4ebcB39c4C4ebcB39c4C4ebcB",
  "31e4C",
  "=America/Campo_Grande",
  "@-13108 -14400 -10800",
  ".96aa7a34B.2164ddbcC43b0B4564C437cB8eb04C3300B55e0C2d5cB5b84C2dbcB5b84C21bcB5c3a4C1f1cB7e04C",
  "161cB5be4C21bcB5be4C2cfcB5be4C2d5cB974a4C31dcB5404C29fcB5ee4C275cB5e84C275cB6124C2c9cB5e84C",
  "2c9cB5be4C29fcB6124C24bcB6124C2f3cB5944C2f3cB5944C2c9cB5944C31dcB5704C36bcB5404C31dcB5404C",
  "371cB5404C31dcB5944C2f3cB6124C275cB5be4C2c9cB61e4C293cB5944C2f3cB6124C29fcB56a4C2f3cB5be4C",
  "2c9cB5be4C2f3cB5944C2f3cB5944C31dcB5944C2c9cB5be4C2c9cB5be4C2f3cB5944C2f3cB5944C2f3cB5944C",
  "2f3cB6124C275cB",
  "=America/Cancun",
  "@-20824 -21600 -18000 -14400",
  ".a5b6da60B2017e8C8c34B717ccC4c1cB3c64C887cD2c9cC1f84B3c64C4ebcB39c4C4ebcB46e4C371cB46e4C4c1cB",
  "3c64C4c1cB3c64C4ebcB39c4C4ebcB39c4C4ebcB39c4C4ebcB3c64C4c1cB3c64C4c1cB3c64C4ebcB39c4C4ebcB",
  "39c4C4ebcB3c64C4c1cB3c64C4c1cB24c4C",
  "=America/Caracas",
  "@-16064 -16060 -16200 -14400",
  ".69871a40B.299711fcC.637ac00cD16f8caC47dc0D",
  "=America/Cayenne",
  "@-12560 -14400 -10800",
  ".91f42b90B.69cf0a30C",
  "=America/Chicago CST6CDT US/Central",
  "@-21036 -21600 -18000",
  "~B C 3.2.0/7200 11.1.0/7200",
  ".5e03fea0B126278C4ebcB39c4C4ebcB56a4C347cB3724C515cB4444C371cB5164C39bcB4ec4C39bcB4ec4C39bcB",
  "4ec4C39bcB4ec4C39bcB5164C39bcB4ec4C39bcB4ec4C39bcB4ec4C39bcB4ec4C39bcB5164C371cB5164C39bcB",
  "4ec4C39bcB39c4C611cB3c64C39bcB4ec4C39bcB5164C371cB5164C39bcB4ec4C39bcB3244C1f25cB4ec4C39bcB",
  "4ec4C39bcB4ec4C39bcB4ec4C39bcB5164C371cB5164C39bcB4ec4C39bcB4ec4C39bcB4ec4C39bcB4ec4C46dcB",
  "4444C443cB4444C443cB4444C443cB4444C443cB4444C46dcB4444C443cB4444C443cB4444C443cB4444C443cB",
  "4444C46dcB41a4C46dcB4444C443cB4444C443cB4444C443cB4444C443cB4444C46dcB4444C443cB4444C443cB",
  "1a44C6e3cB2ca4C5bdcB4444C46dcB41a4C46dcB4444C443cB4444C443cB4444C443cB4444C443cB4444C46dcB",
  "41a4C46dcB4444C443cB4444C443cB4444C443cB3c64C4c1cB3c64C4ebcB39c4C4ebcB39c4C4ebcB3c64C4c1cB",
  "3c64C4c1cB3c64C4ebcB39c4C4ebcB39c4C4ebcB3c64C4c1cB3c64C4c1cB3c64C4c1cB3c64C4ebcB39c4C4ebcB",
  "39c4C4ebcB3c64C4c1cB3c64C4c1cB3c64C4ebcB39c4C4ebcB39c4C4ebcB31e4C",
  "=America/Chihuahua",
  "@-25460 -25200 -21600 -18000",
  ".a5b6e870B2e8c0C1d63cB3e44C39bcB44a4C224044D4c1cC3c64D4c1cC8884B3c64C4ebcB39c4C4ebcB46e4C371cB",
  "46e4C4c1cB3c64C4c1cB3c64C4ebcB39c4C4ebcB39c4C4ebcB39c4C4ebcB3c64C4c1cB3c64C4c1cB3c64C4ebcB",
  "39c4C4ebcB39c4C4ebcB3c64C4c1cB3c64C4c1cB3c64C4c1cB3c64C4ebcB39c4C4ebcB39c4C4ebcB3c64C4c1cB",
  "3c64C4c1cB3c64C4ebcB39c4C",
  "=America/Ciudad_Juarez",
  "@-25556 -25200 -21600 -18000",
  "~B C 3.2.0/7200 11.1.0/7200",
  ".a5b6e870B2e8c0C1d63cB3e44C39bcB44a4C224044D4c1cC3c64D4c1cC8884B3c64C4ebcB39c4C4ebcB46e4C371cB",
  "46e4C4c1cB3c64C4c1cB3c64C4ebcB39c4C4ebcB39c4C4ebcB39c4C4ebcB3c64C4c1cB3c64C4c1cB3484C593cB",
  "2f44C593cB2f44C593cB2f44C593cB2f44C593cB2f44C593cB31e4C593cB2f44C593cB2f44C593cB2f44C593cB",
  "2f44C593cB31e4C593cB2f44C6234B264cC",
  "=America/Costa_Rica",
  "@-20173 -21600 -18000",
  ".a3e8164dB.6d4e3313C24bcB63c4C24bcB5b084C3d1cB4b64C155cB",
  "=America/Coyhaique",
  "@-17296 -16965 -18000 -14400 -10800",
  ".69871f10B.25a92835C.c2c9e0bB.41ffd75D.1838efbB.f5e0605D.118c57bC3964D4f7cC3964D4f7cC3964D",
  "4f7cC3964D4fdcC3964D536fcC16e4D27efcC1320Db7a80E371cD5944E2f3cD4984E39bcD4ec4E39bcD5164E371cD",
  "4c24E3c5cD5164E371cD5164E39bcD4ec4E39bcD4ec4E39bcD5164E371cD5164E371cD5164E39bcD4ec4E39bcD",
  "4ec4E39bcD4ec4E39bcD5164E371cD5164E371cD5164E443cD4444E39bcD4ec4E39bcD5164E371cD46e4E419cD",
  "5164E39bcD4ec4E39bcD4ec4E39bcD4ec4E39bcD5164E371cD5164E3efcD4984E39bcD4984E46dcD46e4E39bcD",
  "5164E371cD5164E371cD5164E371cD5164E39bcD4ec4E39bcD4ec4E39bcD5164E371cD5164E3efcD4984E39bcD",
  "4ec4E419cD46e4E4ebcD2764E5e7cD2f44E593cD31e4E569cD31e4Ee6fcD2224E665cD2224E665cD2224E593cD",
  "39c4E4ebcD39c4E4ebcD39c4E4ebcD3c64E4c1cD39c4E515cD39c4E",
  "=America/Cuiaba",
  "@-13460 -14400 -10800",
  ".96aa7b94B.2164dc5cC43b0B4564C437cB8eb04C3300B55e0C2d5cB5b84C2dbcB5b84C21bcB5c3a4C1f1cB7e04C",
  "161cB5be4C21bcB5be4C2cfcB5be4C2d5cB974a4C31dcB5404C29fcB5ee4C275cB5e84C275cB6124C2c9cB5e84C",
  "2c9cB5be4C29fcB6124C24bcB6124C2f3cB5944C2f3cB5944C2c9cB5944C31dcB5704C36bcB5404C31dcB5404C",
  "371cB5404C31dcB5944C2f3cB6124C275cBea64C293cB5944C2f3cB6124C29fcB56a4C2f3cB5be4C2c9cB5be4C",
  "2f3cB5944C2f3cB5944C31dcB5944C2c9cB5be4C2c9cB5be4C2f3cB5944C2f3cB5944C2f3cB5944C2f3cB6124C",
  "275cB",
  "=America/Danmarkshavn",
  "@-4480 -10800 -7200 0",
  ".9b804900B.77cd3350C4190B4440C4440B4440C4440B4440C4440B4440C46e0B4440C4440B4440C4440B4440C",
  "4440B4440C4440B4440C4440B4440C46e0B4440C4440B4440C4440B4440C4440B4440C4440B4440C4440B2528D",
  "=America/Dawson",
  "@-33460 -32400 -28800 -25200",
  ".7d868eb4B.21323cfcC497cB4ec4C3bf4Bbeb0cC1f25cBa781cD46e0B446a0C379e4D443cC4444D443cC4444D",
  "46dcC41a4D46dcC4444D443cC4444D443cC4444D443cC3c64D4c1cC3c64D4ebcC39c4D4ebcC39c4D4ebcC3c64D",
  "4c1cC3c64D4c1cC3c64D4ebcC39c4D4ebcC39c4D4ebcC3c64D4c1cC3c64D4c1cC3c64D4c1cC3c64D4ebcC39c4D",
  "4ebcC39c4D4ebcC3c64D4c1cC3c64D4c1cC3c64D4ebcC39c4D4ebcC39c4D4ebcC31e4D593cC2f44D593cC2f44D",
  "593cC31e4D593cC2f44D593cC2f44D593cC2f44D593cC2f44D593cC2f44D593cC31e4D593cC2f44D593cC2f44D",
  "593cC2f44D593cC2f44D",
  "=America/Dawson_Creek",
  "@-28856 -28800 -25200",
  ".5e3d7438B.407b4968C497cBc75c4C1f25cBd744C39bcB4ec4C39bcB4ec4C39bcB5164C371cB5164C39bcB4ec4C",
  "39bcB4ec4C39bcB4ec4C39bcB4ec4C39bcB5164C39bcB4ec4C39bcB4ec4C39bcB4ec4C39bcB4ec4C39bcB5164C",
  "371cB5164C443cB4444C443cB4444C443cB4444C46dcB41a4C46dcB4444C443cB4444C443cB4444C443cB4444C",
  "443cB4444C46dcB4444C",
  "=America/Denver America/Shiprock MST7MDT Navajo US/Mountain",
  "@-25196 -25200 -21600",
  "~B C 3.2.0/7200 11.1.0/7200",
  ".5e040cb0B126278C4ebcB39c4C4ebcB39c4C515cB3724C14fcBb1604C1f25cBa7824C46dcB41a4C46dcB4444C",
  "443cB4444C443cB4444C443cB4444C443cB4444C46dcB4444C443cB4444C443cB1a44C6e3cB2ca4C5bdcB4444C",
  "46dcB41a4C46dcB4444C443cB4444C443cB4444C443cB4444C443cB4444C46dcB41a4C46dcB4444C443cB4444C",
  "443cB4444C443cB3c64C4c1cB3c64C4ebcB39c4C4ebcB39c4C4ebcB3c64C4c1cB3c64C4c1cB3c64C4ebcB39c4C",
  "4ebcB39c4C4ebcB3c64C4c1cB3c64C4c1cB3c64C4c1cB3c64C4ebcB39c4C4ebcB39c4C4ebcB3c64C4c1cB3c64C",
  "4c1cB3c64C4ebcB39c4C4ebcB39c4C4ebcB31e4C",
  "=America/Detroit US/Michigan",
  "@-19931 -21600 -18000 -14400",
  "~C D 3.2.0/7200 11.1.0/7200",
  ".85bd225bB.137f71a5Ce4e9cD1f25cC15fc4D39bcC.2332eeacD.b4ab54C4444D443cC268e4D443cC1a44D6e3cC",
  "4444D443cC4444D46dcC41a4D46dcC4444D443cC4444D443cC4444D443cC4444D443cC4444D46dcC41a4D46dcC",
  "4444D443cC4444D443cC4444D443cC3c64D4c1cC3c64D4ebcC39c4D4ebcC39c4D4ebcC3c64D4c1cC3c64D4c1cC",
  "3c64D4ebcC39c4D4ebcC39c4D4ebcC3c64D4c1cC3c64D4c1cC3c64D4c1cC3c64D4ebcC39c4D4ebcC39c4D4ebcC",
  "3c64D4c1cC3c64D4c1cC3c64D4ebcC39c4D4ebcC39c4D4ebcC31e4D",
  "=America/Edmonton America/Yellowknife Canada/Mountain",
  "@-27232 -25200 -21600",
  "~B C 3.2.0/7200 11.1.0/7200",
  ".88decee0B.15d9e0b0C497cB3f04C107cB7d44C46dcB41a4C39bcB5164C371cB5164C39bcB9d324C1f25cBd744C",
  "39bcBd27e4C443cB4444C443cB4444C443cB4444C443cB4444C46dcB41a4C46dcB4444C443cB4444C443cB4444C",
  "443cB4444C443cB4444C46dcB41a4C46dcB4444C443cB4444C443cB4444C443cB3c64C4c1cB3c64C4ebcB39c4C",
  "4ebcB39c4C4ebcB3c64C4c1cB3c64C4c1cB3c64C4ebcB39c4C4ebcB39c4C4ebcB3c64C4c1cB3c64C4c1cB3c64C",
  "4c1cB3c64C4ebcB39c4C4ebcB39c4C4ebcB3c64C4c1cB3c64C4c1cB3c64C4ebcB39c4C4ebcB39c4C4ebcB31e4C",
  "=America/Eirunepe",
  "@-16768 -18000 -14400",
  ".96aa8880B.2164dd80C43b0B4564C437cB8eb04C3300B55e0C2d5cB5b84C2dbcB5b84C21bcB5c3a4C1f1cB7e04C",
  "161cB5be4C21bcB5be4C2cfcB5be4C2d5cB974a4C31dcB5404C29fcB5ee4C275cB30ba4C2f3cB7ac44C2e0dcB",
  "=America/El_Salvador",
  "@-21408 -21600 -18000",
  ".a3d5a620B.7cc536c0C371cB5164C371cB",
  "=America/Fort_Nelson",
  "@-29447 -28800 -25200",
  ".5e3d7687B.407b4719C497cBc75c4C1f25cBd744C39bcB4ec4C39bcB4ec4C39bcB5164C371cB5164C39bcB4ec4C",
  "39bcB4ec4C39bcB4ec4C39bcB4ec4C39bcB5164C39bcB4ec4C39bcB4ec4C39bcB4ec4C39bcB4ec4C39bcB5164C",
  "371cB5164C443cB4444C443cB4444C443cB4444C46dcB41a4C46dcB4444C443cB4444C443cB4444C443cB4444C",
  "443cB4444C46dcB4444C443cB4444C443cB4444C443cB4444C443cB4444C46dcB41a4C46dcB4444C443cB4444C",
  "443cB4444C443cB4444C443cB4444C46dcB41a4C46dcB4444C443cB4444C443cB4444C443cB3c64C4c1cB3c64C",
  "4ebcB39c4C4ebcB39c4C4ebcB3c64C4c1cB3c64C4c1cB3c64C4ebcB39c4C4ebcB39c4C4ebcB3c64C4c1cB3c64C",
  "4c1cB3c64C4c1cB3c64C4ebcB39c4C4ebcB39c4C4ebcB3c64C4c1cB3c64C4c1cB3c64C4ebcB39c4C4ebcB39c4C",
  "4ebcB31e4C593cB2f44C593cB2f44C593cB31e4C593cB2f44C593cB2f44C593cB2f44C593cB2f44C593cB2f44C",
  "=America/Fortaleza",
  "@-9240 -10800 -7200",
  ".96aa6b18B.2164dec8C43b0B4564C437cB8eb04C3300B55e0C2d5cB5b84C2dbcB5b84C21bcB5c3a4C1f1cB7e04C",
  "161cB5be4C21bcB5be4C2cfcB5be4C2d5cB974a4C31dcB5404C29fcB5ee4C275cB5e84C275cB6124C2c9cB52864C",
  "371cB5404C53cB85e4C2f3cB",
  "=America/Glace_Bay",
  "@-14388 -14400 -10800",
  "~B C 3.2.0/7200 11.1.0/7200",
  ".80f1a834B.1dc6dd2cC497cBc75c4C1f25cB40ce4C39bcB9f244C443cB4444C443cB4444C443cB4444C443cB4444C",
  "46dcB41a4C46dcB4444C443cB4444C443cB4444C443cB4444C443cB4444C46dcB41a4C46dcB4444C443cB4444C",
  "443cB4444C443cB3c64C4c1cB3c64C4ebcB39c4C4ebcB39c4C4ebcB3c64C4c1cB3c64C4c1cB3c64C4ebcB39c4C",
  "4ebcB39c4C4ebcB3c64C4c1cB3c64C4c1cB3c64C4c1cB3c64C4ebcB39c4C4ebcB39c4C4ebcB3c64C4c1cB3c64C",
  "4c1cB3c64C4ebcB39c4C4ebcB39c4C4ebcB31e4C",
  "=America/Goose_Bay",
  "@-14500 -12652 -9052 -12600 -9000 -14400 -10800 -7200",
  "~F G 3.2.0/7200 11.1.0/7200",
  ".5e3d3c24B.407b4268C497cB8c93cD.219e3ccE371cD5164E371cD5164E371cD5404E347cD5404E371cD5164E",
  "371cD5164E1d044D5404E371cD5164E371cD5164E371cD5164E371cD5404E371cD4c24E39bcD4ec4E39bcD4ec4E",
  "39bcD4ec4E39bcD4ec4E39bcD5164E39bcD4ec4E39bcD4ec4E39bcD4ec4E39bcD4ec4E46dcD4444E443cD4444E",
  "443cD4444E443cD4444E443cD4444E46dcD32a4Ff02G46dcF4444G443cF4444G443cF4444G443cF4444G443cF4444G",
  "46dcF4444G443cF4444G443cF4444G443cF4444G443cF4444G46dcF41a4G46dcF4444G443cF4444G443cF4444G",
  "443cF4444G443cF4444G46dcF41a4G46dcF4444G443cF4444G443cF4444G443cF.d433acG4c1cF3c64H4eb8F39c8G",
  "4ebcF39c4G4ebcF3c64G4c1cF3c64G4c1cF3c64G4ebcF39c4G4ebcF39c4G4ebcF3c64G4c1cF3c64G4c1cF3c64G",
  "4c1cF3c64G4ebcF39c4G4ebcF39c4G4ebcF3c64G4c1cF3c64G4c1cF3c64G4ebcF39c4G4ebcF39c4G4ebcF31e4G",
  "593cF2f44G593cF2f44G593cF31e4G593cF2f44G.139d2d4F",
  "=America/Grand_Turk",
  "@-17072 -18430 -18000 -14400",
  "~C D 3.2.0/7200 11.1.0/7200",
  ".69871e30B.298896ceC.7e79b0f2D443cC4444D443cC4444D443cC4444D46dcC41a4D46dcC4444D443cC4444D",
  "443cC4444D443cC3c64D4c1cC3c64D4ebcC39c4D4ebcC39c4D4ebcC3c64D4c1cC3c64D4c1cC3c64D4ebcC39c4D",
  "4ebcC39c4D4ebcC3c64D4c1cC3c64D4c1cC3c64D4c1cC3c64D4ebcC39c4D4ebcC39c4D4ebcC3c64D4c1cC3c64D",
  "4c1cC3c64D4ebcC39c4D4ebcC39c4D4ebcC31e4D",
  "=America/Guatemala",
  "@-21724 -21600 -18000",
  ".9f9deadcB.67b7c184C221cB4f0e4C2e7cB40324C3efcB7d5e4C39bcB",
  "=America/Guayaquil",
  "@-19160 -18840 -18000 -14400",
  ".69872658B.4d1d1bc0C.7472bab8D19dcC",
  "=America/Guyana",
  "@-13959 -14400 -13500 -10800",
  ".921d0f87B.6bc6bb9C20537fD8e9e1B",
  "=America/Halifax Canada/Atlantic",
  "@-15264 -14400 -10800",
  "~B C 3.2.0/7200 11.1.0/7200",
  ".80f1aba0B.19f33320C449cBd20cC497cBd1fcC29fcB5dc4C2dbcB58e4C2ffcB5b24C2d5cB5b24C323cB5644C",
  "377cB5644C2cfcB5644C377cB5644C2c9cB5be4C2abcB5dc4C2f9cB58e4C34dcB5104C377cB5104C3a1cB5644C",
  "2c9cB6124C2cfcB5be4C275cB5644C377cB5104C377cB5b84C2cfcB53a4C377cB5104C377cB31ecC1f25cB4ec4C",
  "39bcB4ec4C39bcB4ec4C39bcB4ec4C39bcBd9e4C39bcB4ec4C39bcB4ec4C39bcB4ec4C39bcBd9e4C39bcB4ec4C",
  "39bcB4ec4C39bcB4ec4C39bcB16264C443cB4444C443cB4444C443cB4444C46dcB41a4C46dcB4444C443cB4444C",
  "443cB4444C443cB4444C443cB4444C46dcB4444C443cB4444C443cB4444C443cB4444C443cB4444C46dcB41a4C",
  "46dcB4444C443cB4444C443cB4444C443cB4444C443cB4444C46dcB41a4C46dcB4444C443cB4444C443cB4444C",
  "443cB3c64C4c1cB3c64C4ebcB39c4C4ebcB39c4C4ebcB3c64C4c1cB3c64C4c1cB3c64C4ebcB39c4C4ebcB39c4C",
  "4ebcB3c64C4c1cB3c64C4c1cB3c64C4c1cB3c64C4ebcB39c4C4ebcB39c4C4ebcB3c64C4c1cB3c64C4c1cB3c64C",
  "4ebcB39c4C4ebcB39c4C4ebcB31e4C",
  "=America/Havana Cuba",
  "@-19768 -19776 -18000 -14400",
  "~C D 3.2.0/0 11.1.0/3600",
  ".698728b8B.42db99c8C.570d1d0D2dbcC63ae4D221cC6664D24bcC6664D221cC17764D221cC6664D221cCa0804D",
  "2d5cC5a64D2f3cC4684D3a1cC5164D371cC56a4D443cC4444D443cC4444D46dcC4444D3c5cC4c24D3cbcC4bc4D",
  "3d1cC4b64D443cC4444D46dcC41a4D46dcC46e4D39bcC3c64D4ebcC39c4D4ebcC4ec4D39bcC4ec4D39bcC4ec4D",
  "39bcC4ec4D3c5cC4c24D3c5cC39c4D4ebcC39c4D4ebcC3c64D4c1cC3c64D4c1cC41a4D497cC41a4D46e0C41a0D",
  "46e0C41a0D46e0C41a0D46e0C41a0D46e0C4440D4440C4440D46e0C3f00D4ec0C39c0D5160C39c0D4ec0C39c0D",
  "4ec0C3c60D4c20C3c60D4c20C39c0D16260C31e0D56a0C3480D5400C31e0D56a0C3480D56a0C3480D5940C3480D",
  "5160C",
  "=America/Hermosillo",
  "@-26632 -25200 -21600",
  ".a5b6e870B2e8c0C1d63cB3e44C39bcB44a4C5621cB1cde2cC4c1cB3c64C4c1cB3c64C4c1cB",
  "=America/Indiana/Indianapolis America/Fort_Wayne America/Indianapolis US/East-Indiana",
  "@-20678 -21600 -18000 -14400",
  "~C D 3.2.0/7200 11.1.0/7200",
  ".5e03fea0B126278C4ebcB39c4C4ebcBb9644C24bcB3244C1f25cB4ec4C39bcB4ec4C39bcB4ec4C39bcB4ec4C39bcB",
  "5164C371cB5164C39bcB4ec4C39bcB4ec4C39bcB4ec4C39bcB4ec4C14d5cB4ec4C5e2bcD443cC4444D443cC12f5a4D",
  "4ebcC31e4D",
  "=America/Indiana/Knox America/Knox_IN US/Indiana-Starke",
  "@-20790 -21600 -18000",
  "~B C 3.2.0/7200 11.1.0/7200",
  ".5e03fea0B126278C4ebcB39c4C4ebcBbed44C1f25cBd744C39bcB4ec4C39bcB4ec4C39bcB5164C371cB5164C39bcB",
  "4ec4C39bcB4ec4C39bcB4ec4C39bcB4ec4C46dcB4444C443cB4444C39bcB4ec4C39bcB4ec4C443cB4444C46dcB",
  "4444C443cB4444CccbcB1e064C443cB4444C443cB4444C443cB4444C443cB4444C46dcB4444C443cB4444C443cB",
  "1a44C6e3cB2ca4C5bdcB4444C46dcB41a4C46dcB4444C443cB4444C443cB4444C443cB4444C443cB4444C46dcB",
  "41a4C46dcB4444C443cB4444C443cB4444C443cB3c64C4c1cB3c64C4ebcB39c4C4ebcB39c4C4ebcB3c64C8537cB",
  "31e4C",
  "=America/Indiana/Marengo",
  "@-20723 -21600 -18000 -14400",
  "~C D 3.2.0/7200 11.1.0/7200",
  ".5e03fea0B126278C4ebcB39c4C4ebcBbed44C1f25cB2fbe4C39bcB15fc4C39bcB4ec4C39bcB5164C39bcB4ec4C",
  "39bcB4ec4C39bcB4ec4C39bcB4ec4C39bcB5164C4469cD443cC4444D443cC4444D46dcC4444D443cC4444D443cC",
  "b524D5bdcC104884D4ebcC31e4D",
  "=America/Indiana/Petersburg",
  "@-20947 -21600 -18000 -14400",
  "~C D 3.2.0/7200 11.1.0/7200",
  ".5e03fea0B126278C4ebcB39c4C4ebcBbed44C1f25cB5207cC3724B5164C39bcB4ec4C39bcB4ec4C39bcB4ec4C",
  "39bcB4ec4C39bcB5164C443cB4444C443cB4444C443cB4444C443cB4444Ccf5cB4444C443cB4444C443cB4444C",
  "443cB4444C443cB4444C46dcB4444C443cB4444C443cB1a44C6e3cB2ca4C5bdcB4444C46dcB41a4Cfca7cB31e4C",
  "887cD",
  "=America/Indiana/Tell_City",
  "@-20823 -21600 -18000 -14400",
  "~B C 3.2.0/7200 11.1.0/7200",
  ".5e03fea0B126278C4ebcB39c4C4ebcBbed44C1f25cB5207cC3724B5164C39bcB4ec4C39bcB4ec4C39bcB4ec4C",
  "39bcB4ec4C39bcB5164C443cB4444C443cB4444C443cB4444C1e05cB4444C443cB4444D4438C4444D443cC134464B",
  "31e4C",
  "=America/Indiana/Vevay",
  "@-20416 -21600 -18000 -14400",
  "~C D 3.2.0/7200 11.1.0/7200",
  ".5e03fea0B126278C4ebcB39c4C4ebcBbed44C1f25cB49564C8075cD443cC4444D443cC4444D46dcC4444D443cC",
  "11e204D4ebcC31e4D",
  "=America/Indiana/Vincennes",
  "@-21007 -21600 -18000 -14400",
  "~C D 3.2.0/7200 11.1.0/7200",
  ".5e03fea0B126278C4ebcB39c4C4ebcBbed44C1f25cB4ec4C39bcB38464C39bcB4ec4C39bcB515cC3724B5164C",
  "39bcB4ec4C39bcB4ec4C39bcB4ec4C39bcB4ec4C46dcB4444C371cB5164C443cB4444C443cB4444C2ad1cD443cC",
  "4444D443cC134464B31e4C887cD",
  "=America/Indiana/Winamac",
  "@-20785 -21600 -18000 -14400",
  "~C D 3.2.0/7200 11.1.0/7200",
  ".5e03fea0B126278C4ebcB39c4C4ebcBbed44C1f25cB4ec4C39bcB4ec4C39bcB4ec4C39bcB4ec4C39bcB5164C371cB",
  "5164C39bcB4ec4C39bcB4ec4C39bcB4ec4C39bcB4ec4C46dcB4444C443cB4444C39bcB4ec4C39bcB4ec4C39bcB",
  "4ec4C39bcB5164C4469cD443cC4444D443cC134464B31e4D5938C",
  "=America/Inuvik",
  "@0 -28800 -25200 -21600",
  "~C D 3.2.0/7200 11.1.0/7200",
  ".e0064e80Ba5748C443cB4444C443cB4444C443cB4444C443cB4444C46dcB41a4C46dcB4444C443cB4444D4438C",
  "4444D443cC4444D443cC4444D46dcC41a4D46dcC4444D443cC4444D443cC4444D443cC3c64D4c1cC3c64D4ebcC",
  "39c4D4ebcC39c4D4ebcC3c64D4c1cC3c64D4c1cC3c64D4ebcC39c4D4ebcC39c4D4ebcC3c64D4c1cC3c64D4c1cC",
  "3c64D4c1cC3c64D4ebcC39c4D4ebcC39c4D4ebcC3c64D4c1cC3c64D4c1cC3c64D4ebcC39c4D4ebcC39c4D4ebcC",
  "31e4D",
  "=America/Iqaluit America/Pangnirtung",
  "@0 -14400 -18000 -21600",
  "~C B 3.2.0/7200 11.1.0/7200",
  ".cc6ca180B1b198Ce38e4B443cC4444B443cC4444B443cC4444B443cC4444B46dcC41a4B46dcC4444B443cC4444B",
  "443cC4444B443cC4444B443cC4444B46dcC41a4B46dcC4444B443cC4444B443cC4444B443cC3c64B4c1cC3c64B",
  "4ebcC39c4B4ebcC39c4B4ebcC3c64B4c1cC3c64B4c1cC3c64B4ebcC39c4B4ebcC39c4B4ebcC3c64B4c1cC3c64B",
  "4c1cC3c64B4c1cC3c64B4ebcD39c8C887cB4ebcC3c64B4c1cC3c64B4c1cC3c64B4ebcC39c4B4ebcC39c4B4ebcC",
  "31e4B",
  "=America/Jamaica Jamaica",
  "@-18430 -18000 -14400",
  ".930fb4feB.747d6472C6e3cB2ca4C5bdcB4444C46dcB41a4C46dcB4444C443cB4444C443cB4444C443cB4444C",
  "443cB4444C46dcB41a4C46dcB",
  "=America/Juneau",
  "@54139 -32261 -28800 -25200 -32400",
  "~E C 3.2.0/7200 11.1.0/7200",
  ".3fc2fdd1B.3dc434f4C.4e01e7dbD1f25cCc9cc4D443cC4444D443cC4444D46dcC4444D443cC4444D443cC1a44D",
  "6e3cC2ca4D5bdcC4444D46dcC41a4D46dcC4444D443cC4444D443cCccc4D443cC4444D46dcC41a4D46dcE4448C",
  "443cE4444C443cE4444C443cE3c64C4c1cE3c64C4ebcE39c4C4ebcE39c4C4ebcE3c64C4c1cE3c64C4c1cE3c64C",
  "4ebcE39c4C4ebcE39c4C4ebcE3c64C4c1cE3c64C4c1cE3c64C4c1cE3c64C4ebcE39c4C4ebcE39c4C4ebcE3c64C",
  "4c1cE3c64C4c1cE3c64C4ebcE39c4C4ebcE39c4C4ebcE31e4C",
  "=America/Kentucky/Louisville America/Louisville",
  "@-20582 -21600 -18000 -14400",
  "~C D 3.2.0/7200 11.1.0/7200",
  ".5e03fea0B126278C4ebcB39c4C4ebcBcf64C2e1cBa83c4C39bcB3244C1f25cB.114cd2cC.2e3254B21784C371cB",
  "5164C39bcB4ec4C39bcB4ec4C39bcB4ec4C39bcB4ec4C39bcB5164C443cB4444C443cB4444C443cB4444C443cB",
  "4444C46dcB4444C3be1cD443cC4444D443cC4444D443cC4444D46dcC4444D443cC4444D443cCb524D5bdcC4444D",
  "46dcC41a4D46dcC4444D443cC4444D443cC4444D443cC4444D443cC4444D46dcC41a4D46dcC4444D443cC4444D",
  "443cC4444D443cC3c64D4c1cC3c64D4ebcC39c4D4ebcC39c4D4ebcC3c64D4c1cC3c64D4c1cC3c64D4ebcC39c4D",
  "4ebcC39c4D4ebcC3c64D4c1cC3c64D4c1cC3c64D4c1cC3c64D4ebcC39c4D4ebcC39c4D4ebcC3c64D4c1cC3c64D",
  "4c1cC3c64D4ebcC39c4D4ebcC39c4D4ebcC31e4D",
  "=America/Kentucky/Monticello",
  "@-20364 -21600 -18000 -14400",
  "~C D 3.2.0/7200 11.1.0/7200",
  ".5e03fea0B126278C4ebcB39c4C4ebcBbed44C1f25cBc1444C443cB4444C443cB4444C443cB4444C46dcB4444C",
  "443cB4444C443cB1a44C6e3cB2ca4C5bdcB4444C46dcB41a4C46dcB4444C443cB4444C443cB4444C443cB4444C",
  "443cB4444C46dcB41a4C46dcB4444C443cB4444C443cB4444C443cB3c64C4c1cB3c64C4ebcB39c4C4ebcB39c4C",
  "4ebcB3c64C4c1cB3c64C4c1cB3c64C4ebcB39c4C4ebcB39c4C4ebcB3c64C4c1cB3c64C4c1cB3c64C4c1cB3c64C",
  "4ebcB39c4C887cD4ebcC3c64D4c1cC3c64D4c1cC3c64D4ebcC39c4D4ebcC39c4D4ebcC31e4D",
  "=America/La_Paz",
  "@-16356 -12756 -14400",
  ".b81e96e4B3b3cC",
  "=America/Lima",
  "@-18492 -18516 -18000 -14400",
  ".698723bcB.22ed1d18C.375b097cD21bcC4264D443cC4444D443cC187da4D21bcC6724D21bcC17944D21bcC20224D",
  "21bcC",
  "=America/Los_Angeles PST8PDT US/Pacific",
  "@-28378 -28800 -25200",
  "~B C 3.2.0/7200 11.1.0/7200",
  ".5e041ac0B126278C4ebcB39c4C4ebcBbed44C1f25cB.49d4e4cC.1823934Bb580C3720B5160C39c0B4ec0C39c0B",
  "4ec0C39c0B4ec0C39c0B4ec0C39c0B5160C39c0B4ec0C39c0B4ec0C39c0B4ec0C39c0B4ec0C39c0B5160C3720B",
  "5160C4440B4440C4440B4440C4440B4440C46e0B41a0C46e0B4444C443cB4444C443cB4444C443cB4444C443cB",
  "4444C46dcB4444C443cB4444C443cB1a44C6e3cB2ca4C5bdcB4444C46dcB41a4C46dcB4444C443cB4444C443cB",
  "4444C443cB4444C443cB4444C46dcB41a4C46dcB4444C443cB4444C443cB4444C443cB3c64C4c1cB3c64C4ebcB",
  "39c4C4ebcB39c4C4ebcB3c64C4c1cB3c64C4c1cB3c64C4ebcB39c4C4ebcB39c4C4ebcB3c64C4c1cB3c64C4c1cB",
  "3c64C4c1cB3c64C4ebcB39c4C4ebcB39c4C4ebcB3c64C4c1cB3c64C4c1cB3c64C4ebcB39c4C4ebcB39c4C4ebcB",
  "31e4C",
  "=America/Maceio",
  "@-8572 -10800 -7200",
  ".96aa687cB.2164e164C43b0B4564C437cB8eb04C3300B55e0C2d5cB5b84C2dbcB5b84C21bcB5c3a4C1f1cB7e04C",
  "161cB5be4C21bcB5be4C2cfcB5be4C2d5cB974a4C31dcB5404C29fcB5ee4C275cB5e84C275cB6124C2c9cB30904C",
  "2c9cB1f2c4C371cB5404C53cB85e4C2f3cB",
  "=America/Managua",
  "@-20708 -20712 -21600 -18000",
  ".69872c64B.53a61c84C.49162b78Df5fcC22f24D251cC6364D251cC62a74D640cC2524D223dcC46ce4D419cC4eccD",
  "39b8C",
  "=America/Manaus Brazil/West",
  "@-14404 -14400 -10800",
  ".96aa7f44B.2164d8acC43b0B4564C437cB8eb04C3300B55e0C2d5cB5b84C2dbcB5b84C21bcB5c3a4C1f1cB7e04C",
  "161cB5be4C21bcB5be4C2cfcB5be4C2d5cB974a4C31dcB5404C29fcB5ee4C275cB30ba4C2f3cB",
  "=America/Martinique",
  "@-14660 -14400 -10800",
  ".91a3c844B.81a9a5fcC419cB",
  "=America/Matamoros",
  "@-23400 -21600 -18000",
  "~B C 3.2.0/7200 11.1.0/7200",
  ".a5b6da60B2372a8C4ebcB3fa84C4c1cB3c64C4c1cB3c64C4c1cB3c64C4ebcB39c4C4ebcB46e4C371cB46e4C4c1cB",
  "3c64C4c1cB3c64C4ebcB39c4C4ebcB39c4C4ebcB39c4C4ebcB3c64C4c1cB3c64C4c1cB3484C",
  "=America/Mazatlan Mexico/BajaSur",
  "@-25540 -25200 -21600",
  ".a5b6e870B2e8c0C1d63cB3e44C39bcB44a4C5621cB1cde2cC4c1cB3c64C4c1cB3c64C4c1cB3c64C4ebcB39c4C",
  "4ebcB46e4C371cB46e4C4c1cB3c64C4c1cB3c64C4ebcB39c4C4ebcB39c4C4ebcB39c4C4ebcB3c64C4c1cB3c64C",
  "4c1cB3c64C4ebcB39c4C4ebcB39c4C4ebcB3c64C4c1cB3c64C4c1cB3c64C4c1cB3c64C4ebcB39c4C4ebcB39c4C",
  "4ebcB3c64C4c1cB3c64C4c1cB3c64C4ebcB39c4C4ebcB",
  "=America/Menominee",
  "@-21027 -21600 -18000",
  "~B C 3.2.0/7200 11.1.0/7200",
  ".61774963B.3d2ee31dC4ebcB39c4C4ebcBbed44C1f25cB4ec4C39bcBa7824C46dcB15544C268dcB1a44C6e3cB",
  "2ca4C5bdcB4444C46dcB41a4C46dcB4444C443cB4444C443cB4444C443cB4444C443cB4444C46dcB41a4C46dcB",
  "4444C443cB4444C443cB4444C443cB3c64C4c1cB3c64C4ebcB39c4C4ebcB39c4C4ebcB3c64C4c1cB3c64C4c1cB",
  "3c64C4ebcB39c4C4ebcB39c4C4ebcB3c64C4c1cB3c64C4c1cB3c64C4c1cB3c64C4ebcB39c4C4ebcB39c4C4ebcB",
  "3c64C4c1cB3c64C4c1cB3c64C4ebcB39c4C4ebcB39c4C4ebcB31e4C",
  "=America/Merida",
  "@-21508 -21600 -18000",
  ".a5b6da60B2017e8C749cB72f64C4c1cB3c64C4c1cB3c64C4c1cB3c64C4ebcB39c4C4ebcB46e4C371cB46e4C4c1cB",
  "3c64C4c1cB3c64C4ebcB39c4C4ebcB39c4C4ebcB39c4C4ebcB3c64C4c1cB3c64C4c1cB3c64C4ebcB39c4C4ebcB",
  "39c4C4ebcB3c64C4c1cB3c64C4c1cB3c64C4c1cB3c64C4ebcB39c4C4ebcB39c4C4ebcB3c64C4c1cB3c64C4c1cB",
  "3c64C4ebcB39c4C4ebcB",
  "=America/Metlakatla",
  "@54822 -31578 -28800 -25200 -32400",
  "~E C 3.2.0/7200 11.1.0/7200",
  ".3fc2fdd1B.3dc43249C.4e01ea86D1f25cCc9cc4D443cC4444D443cC4444D46dcC4444D443cC4444D443cC1a44D",
  "6e3cC2ca4D5bdcC4444D46dcC41a4D46dcC4444D443cC4444D443cC4444D443cC4444D443cC4444D46dcC41a4D",
  "46dcC111fc4E31e4C593cE2f44C593cE2f44C761cE1264C",
  "=America/Mexico_City Mexico/General",
  "@-23796 -25200 -21600 -18000",
  ".a5b6e870B2e8c0C1d63cB3e44C39bcB44a4C3a9dcD347cCc7e4D2a5cC172e4D335cC31864D3efcC18720cD4c1cC",
  "3c64D4c1cC3c64D4c1cC3c64D4ebcC39c4D4ebcC46e4D371cC46e4D4c1cC3c64D4c1cC3c64D4ebcC39c4D4ebcC",
  "39c4D4ebcC39c4D4ebcC3c64D4c1cC3c64D4c1cC3c64D4ebcC39c4D4ebcC39c4D4ebcC3c64D4c1cC3c64D4c1cC",
  "3c64D4c1cC3c64D4ebcC39c4D4ebcC39c4D4ebcC3c64D4c1cC3c64D4c1cC3c64D4ebcC39c4D4ebcC",
  "=America/Miquelon",
  "@-13480 -14400 -10800 -7200",
  "~C D 3.2.0/7200 11.1.0/7200",
  ".91df1728B.818f4c98C3b4c4D4c1cC3c64D4ebcC39c4D4ebcC39c4D4ebcC3c64D4c1cC3c64D4c1cC3c64D4ebcC",
  "39c4D4ebcC39c4D4ebcC3c64D4c1cC3c64D4c1cC3c64D4c1cC3c64D4ebcC39c4D4ebcC39c4D4ebcC3c64D4c1cC",
  "3c64D4c1cC3c64D4ebcC39c4D4ebcC39c4D4ebcC31e4D",
  "=America/Moncton",
  "@-15548 -18000 -14400 -10800",
  "~C D 3.2.0/7200 11.1.0/7200",
  ".5e1eedbcB.22d2c894C87844D497cC7d2e0D221cC6664D221cC6664D221cC6664D221cC6664D221cC6664D221cC",
  "6364D2c9cC59a4D2edcC5464D36bcC32a8D1f25cC4ec4D39bcC4ec4D39bcC4ec4D39bcC4ec4D39bcC5164D371cC",
  "5164D39bcC4ec4D39bcC4ec4D39bcC4ec4D39bcC4ec4D39bcC5164D39bcC4ec4D443cC4444D443cC4444D443cC",
  "4444D46dcC4444D443cC4444D443cC4444D443cC4444D443cC4444D46dcC41a4D46dcC4444D443cC4444D443cC",
  "4444D443cC4444D443cC4444D46dcC4444D443cCccc4D443cC4444D443cC4444D46dcC41a4D46dcC4444D443cC",
  "4444D443cC4444D443cC4444D443cC4444D46dcC41a4D46dcC4444D443cC4444D443cC4444D443cC3c64D4c1cC",
  "3c64D4ebcC39c4D4ebcC39c4D4ebcC3c64D4c1cC3c64D4c1cC.d433acD4ebcC39c4D4ebcC39c4D4ebcC3c64D4c1cC",
  "3c64D4c1cC3c64D4c1cC3c64D4ebcC39c4D4ebcC39c4D4ebcC3c64D4c1cC3c64D4c1cC3c64D4ebcC39c4D4ebcC",
  "39c4D4ebcC.af8174D",
  "=America/Monterrey",
  "@-24076 -25200 -21600 -18000",
  ".a5b6da60B2e8c4C1d63cB3e44C39bcB44a4C1df704D4ebcC3fa84D4c1cC3c64D4c1cC3c64D4c1cC3c64D4ebcC",
  "39c4D4ebcC46e4D371cC46e4D4c1cC3c64D4c1cC3c64D4ebcC39c4D4ebcC39c4D4ebcC39c4D4ebcC3c64D4c1cC",
  "3c64D4c1cC3c64D4ebcC39c4D4ebcC39c4D4ebcC3c64D4c1cC3c64D4c1cC3c64D4c1cC3c64D4ebcC39c4D4ebcC",
  "39c4D4ebcC3c64D4c1cC3c64D4c1cC3c64D4ebcC39c4D4ebcC",
  "=America/Montevideo",
  "@-13491 -14400 -10800 -12600 -9000 -7200 -5400",
  ".a29287b3B.66d538dC449cD44a2C443eD44a2C443eD40e02C39beD4ec2C39beD4ec2C39beD4ec2C39beD5162C",
  "371eD5162C371eD46e2C443eD4ec2C39beD2e82Cbb7eE21beC8aa22E419eC17a2F125cC2b7a4F419cC16d44E467eC",
  "bf42F12bcCfea4F1f7cCccc4G14faE41a4C2a02F24bcCec44F1cdcC6664F221cC6ba4F1cdcC1504F78bcC424e4F",
  "1c7cC6ba4F1f7cC5944F2c9cC5944F31dcC5944F2f3cC56a4F31dcC62ee4F46e4C4984F39bcC4c24F3c5cC4ec4F",
  "39bcC4ec4F39bcC4ec4F3c5cC4c24F3c5cC4c24F3c5cC4ec4F39bcC4ec4F39bcC4ec4F39bcC",
  "=America/New_York EST5EDT US/Eastern",
  "@-17762 -18000 -14400",
  "~B C 3.2.0/7200 11.1.0/7200",
  ".5e03f090B126278C4ebcB39c4C4ebcB39c4C515cB41a4C39bcB5164C371cB5164C39bcB4ec4C39bcB4ec4C39bcB",
  "4ec4C39bcB4ec4C39bcB5164C39bcB4ec4C39bcB4ec4C39bcB4ec4C39bcB4ec4C39bcB5164C371cB5164C39bcB",
  "4ec4C39bcB4ec4C39bcB4ec4C39bcB4ec4C39bcB5164C371cB5164C39bcB4ec4C39bcB3244C1f25cB4ec4C39bcB",
  "4ec4C39bcB4ec4C39bcB4ec4C39bcB5164C371cB5164C39bcB4ec4C39bcB4ec4C39bcB4ec4C39bcB4ec4C46dcB",
  "4444C443cB4444C443cB4444C443cB4444C443cB4444C46dcB4444C443cB4444C443cB4444C443cB4444C443cB",
  "4444C46dcB41a4C46dcB4444C443cB4444C443cB4444C443cB4444C443cB4444C46dcB4444C443cB4444C443cB",
  "1a44C6e3cB2ca4C5bdcB4444C46dcB41a4C46dcB4444C443cB4444C443cB4444C443cB4444C443cB4444C46dcB",
  "41a4C46dcB4444C443cB4444C443cB4444C443cB3c64C4c1cB3c64C4ebcB39c4C4ebcB39c4C4ebcB3c64C4c1cB",
  "3c64C4c1cB3c64C4ebcB39c4C4ebcB39c4C4ebcB3c64C4c1cB3c64C4c1cB3c64C4c1cB3c64C4ebcB39c4C4ebcB",
  "39c4C4ebcB3c64C4c1cB3c64C4c1cB3c64C4ebcB39c4C4ebcB39c4C4ebcB31e4C",
  "=America/Nome",
  "@46702 -39698 -39600 -36000 -32400 -28800",
  "~E F 3.2.0/7200 11.1.0/7200",
  ".3fc2fdd1B.3dc45201C.4e01f4feD1f25cCc9cc4D443cC4444D443cC4444D46dcC4444D443cC4444D443cC1a44D",
  "6e3cC2ca4D5bdcC4444D46dcC41a4D46dcC4444D443cC4444D443cC4444D443cC4444D443cC4444D46dcC41a4D",
  "46dcE443cF443cE4444F443cE4444F443cE3c64F4c1cE3c64F4ebcE39c4F4ebcE39c4F4ebcE3c64F4c1cE3c64F",
  "4c1cE3c64F4ebcE39c4F4ebcE39c4F4ebcE3c64F4c1cE3c64F4c1cE3c64F4c1cE3c64F4ebcE39c4F4ebcE39c4F",
  "4ebcE3c64F4c1cE3c64F4c1cE3c64F4ebcE39c4F4ebcE39c4F4ebcE31e4F",
  "=America/Noronha Brazil/DeNoronha",
  "@-7780 -7200 -3600",
  ".96aa6564B.2164d66cC43b0B4564C437cB8eb04C3300B55e0C2d5cB5b84C2dbcB5b84C21bcB5c3a4C1f1cB7e04C",
  "161cB5be4C21bcB5be4C2cfcB5be4C2d5cB974a4C31dcB5404C29fcB5ee4C275cB5e84C275cB6124C2c9cB52864C",
  "371cB5404C29cB8884C2f3cB",
  "=America/North_Dakota/Beulah",
  "@-24427 -25200 -21600 -18000",
  "~C D 3.2.0/7200 11.1.0/7200",
  ".5e040cb0B126278C4ebcB39c4C4ebcBbed44C1f25cBb8bc4C443cB4444C443cB4444C443cB4444C443cB4444C",
  "46dcB4444C443cB4444C443cB1a44C6e3cB2ca4C5bdcB4444C46dcB41a4C46dcB4444C443cB4444C443cB4444C",
  "443cB4444C443cB4444C46dcB41a4C46dcB4444C443cB4444C443cB4444C443cB3c64C4c1cB3c64C4ebcB39c4C",
  "4ebcB39c4C4ebcB3c64C4c1cB3c64C4c1cB3c64C4ebcB39c4C4ebcB39c4C4ebcB3c64C4c1cB3c64C4c1cB3c64C",
  "4c1cB3c64C4ebcB39c4C4ebcB39c4C4ebcB3c64C4c1cB3c64C4c1cB3c64C4ebcB39c4C4ebcB39c4C4ebcB31e4C",
  "593cB2f44C593cB2f44C593cB31e4C887cD",
  "=America/North_Dakota/Center",
  "@-24312 -25200 -21600 -18000",
  "~C D 3.2.0/7200 11.1.0/7200",
  ".5e040cb0B126278C4ebcB39c4C4ebcBbed44C1f25cBb8bc4C443cB4444C443cB4444C443cB4444C443cB4444C",
  "46dcB4444C443cB4444C443cB1a44C6e3cB2ca4C5bdcB4444C46dcB41a4C46dcB4444C443cB4444C443cB4444C",
  "443cB4444C443cB4444C46dcB41a4C46dcB4444C443cB4444C443cB4444C443cB3c64C4c1cB3c64C4ebcB39c4C",
  "4ebcB39c4C4ebcB3c64C4c1cB3c64C887cD4ebcC39c4D4ebcC39c4D4ebcC3c64D4c1cC3c64D4c1cC3c64D4c1cC",
  "3c64D4ebcC39c4D4ebcC39c4D4ebcC3c64D4c1cC3c64D4c1cC3c64D4ebcC39c4D4ebcC39c4D4ebcC31e4D",
  "=America/North_Dakota/New_Salem",
  "@-24339 -25200 -21600 -18000",
  "~C D 3.2.0/7200 11.1.0/7200",
  ".5e040cb0B126278C4ebcB39c4C4ebcBbed44C1f25cBb8bc4C443cB4444C443cB4444C443cB4444C443cB4444C",
  "46dcB4444C443cB4444C443cB1a44C6e3cB2ca4C5bdcB4444C46dcB41a4C46dcB4444C443cB4444C443cB4444C",
  "443cB4444C443cB4444C46dcB41a4C46dcB4444C443cB4444C443cB4444C443cB3c64C4c1cB3c64C4ebcB39c4C",
  "4ebcB39c4C4ebcB3c64C4c1cB3c64C4c1cB3c64C4ebcB39c4C4ebcB39c4C4ebcB3c64C4c1cB3c64C4c1cB3c64C",
  "4c1cB3c64C4ebcB39c4C4ebcB39c4C4ebcB3c64C4c1cB3c64C887cD4ebcC39c4D4ebcC39c4D4ebcC31e4D",
  "=America/Nuuk America/Godthab",
  "@-12416 -10800 -7200 -3600",
  "~C D 3.5.0/-3600 10.5.0/0",
  ".9b806800B.77cd1450C4190B4440C4440B4440C4440B4440C4440B4440C46e0B4440C4440B4440C4440B4440C",
  "4440B4440C4440B4440C4440B4440C46e0B4440C4440B4440C4440B4440C4440B4440C4440B4440C4440B46e0C",
  "4ec0B39c0C4ec0B39c0C4ec0B39c0C5160B3720C5160B3720C5160B39c0C4ec0B39c0C4ec0B39c0C5160B3720C",
  "5160B3720C5160B3720C5160B39c0C4ec0B39c0C4ec0B39c0C5160B3720C5160B3720C5160B39c0C4ec0B39c0C",
  "4ec0B39c0C4ec0B39c0C5160B3720C5160B3720C5160B39c0C4ec0B39c0C4ec0B39c0C5160B3720C5160B3720C",
  "8b20D",
  "=America/Ojinaga",
  "@-25060 -25200 -21600 -18000",
  "~C D 3.2.0/7200 11.1.0/7200",
  ".a5b6e870B2e8c0C1d63cB3e44C39bcB44a4C224044D4c1cC3c64D4c1cC8884B3c64C4ebcB39c4C4ebcB46e4C371cB",
  "46e4C4c1cB3c64C4c1cB3c64C4ebcB39c4C4ebcB39c4C4ebcB39c4C4ebcB3c64C4c1cB3c64C4c1cB3484C593cB",
  "2f44C593cB2f44C593cB2f44C593cB2f44C593cB2f44C593cB31e4C593cB2f44C593cB2f44C593cB2f44C593cB",
  "2f44C593cB31e4C593cB2f44C887cD",
  "=America/Panama America/Atikokan America/Cayman America/Coral_Harbour EST",
  "@-19088 -19176 -18000",
  ".69872610B.226d3bd8C",
  "=America/Paramaribo",
  "@-13240 -13252 -13236 -12600 -10800",
  ".91058eb8B.2d24bd0cC.1437e0f0D.495c0504E",
  "=America/Phoenix America/Creston MST US/Arizona",
  "@-26898 -25200 -21600",
  ".5e040cb0B126278C4ebcB39c4C4ebcBbed44C.38ed28cB2224C449cB.2a775af4C443cB",
  "=America/Port-au-Prince",
  "@-17360 -17340 -18000 -14400",
  "~C D 3.2.0/7200 11.1.0/7200",
  ".69871f50B.32e752acC.7cacd4d4D419cC4444D443cC4444D443cC4444D443cC4444D443cC3c68D4ec0C39c0D",
  "4ec0C39c0D4ec0C3c60D4c20C3c60D4c20C3c60D4ec0C39c0D4ec0C39c0D4ec0C3c60D4c20C3c60D4c20C3fa7cD",
  "4ebcC39c4D4ebcC2df0cD",
  "=America/Porto_Velho",
  "@-15336 -14400 -10800",
  ".96aa82e8B.2164d508C43b0B4564C437cB8eb04C3300B55e0C2d5cB5b84C2dbcB5b84C21bcB5c3a4C1f1cB7e04C",
  "161cB5be4C21bcB5be4C2cfcB5be4C2d5cB974a4C31dcB5404C29fcB5ee4C275cB",
  "=America/Puerto_Rico America/Anguilla America/Antigua America/Aruba America/Blanc-Sablon",
  "=America/Curacao America/Dominica America/Grenada America/Guadeloupe America/Kralendijk",
  "=America/Lower_Princes America/Marigot America/Montserrat America/Port_of_Spain",
  "=America/St_Barthelemy America/St_Kitts America/St_Lucia America/St_Thomas",
  "=America/St_Vincent America/Tortola America/Virgin",
  "@-15865 -14400 -10800",
  ".7ae695b9B.510f9d07C1d344B",
  "=America/Punta_Arenas",
  "@-17020 -16965 -18000 -14400 -10800",
  ".69871dfcB.25a92949C.c2c9e0bB.41ffd75D.1838efbB.f5e0605D.118c57bC3964D4f7cC3964D4f7cC3964D",
  "4f7cC3964D4fdcC3964D536fcC16e4D27efcC1320Db7a80E371cD5944E2f3cD4984E39bcD4ec4E39bcD5164E371cD",
  "4c24E3c5cD5164E371cD5164E39bcD4ec4E39bcD4ec4E39bcD5164E371cD5164E371cD5164E39bcD4ec4E39bcD",
  "4ec4E39bcD4ec4E39bcD5164E371cD5164E371cD5164E443cD4444E39bcD4ec4E39bcD5164E371cD46e4E419cD",
  "5164E39bcD4ec4E39bcD4ec4E39bcD4ec4E39bcD5164E371cD5164E3efcD4984E39bcD4984E46dcD46e4E39bcD",
  "5164E371cD5164E371cD5164E371cD5164E39bcD4ec4E39bcD4ec4E39bcD5164E371cD5164E3efcD4984E39bcD",
  "4ec4E419cD46e4E4ebcD2764E5e7cD2f44E593cD31e4E569cD31e4Ee6fcD2224E",
  "=America/Rankin_Inlet",
  "@0 -21600 -18000",
  "~B C 3.2.0/7200 11.1.0/7200",
  ".e78c6e00B83360C443cB4444C443cB4444C443cB4444C443cB4444C46dcB41a4C46dcB4444C443cB4444C443cB",
  "4444C443cB4444C443cB4444C46dcB41a4C46dcB4444C443cB4444C443cB4444C443cB3c64C4c1cB3c64C4ebcB",
  "39c4C4ebcB39c4C4ebcB3c64C4c1cB3c64C4c1cB3c64C4ebcB39c4C4ebcB39c4C4ebcB3c64C4c1cB3c64C4c1cB",
  "3c64C4c1cB3c64C4ebcB39c4Cd73cB3c64C4c1cB3c64C4c1cB3c64C4ebcB39c4C4ebcB39c4C4ebcB31e4C",
  "=America/Recife",
  "@-8376 -10800 -7200",
  ".96aa67b8B.2164e228C43b0B4564C437cB8eb04C3300B55e0C2d5cB5b84C2dbcB5b84C21bcB5c3a4C1f1cB7e04C",
  "161cB5be4C21bcB5be4C2cfcB5be4C2d5cB974a4C31dcB5404C29fcB5ee4C275cB5e84C275cB6124C2c9cB52864C",
  "371cB5404C29cB8884C2f3cB",
  "=America/Regina Canada/Saskatchewan",
  "@-25116 -25200 -21600",
  ".86fd931cB.17bb1c74C497cB6299cC39bcB4ec4C39bcB4ec4C39bcB5164C371cB5164C39bcB157e4C443cB4444C",
  "419cB46e4C443cB46e4C443cB4444C443cB2d0cC1f25cB4984C443cB4984C39bcB4ec4C39bcB4ec4C39bcB5164C",
  "371cB5164C39bcB4ec4C39bcB4ec4C39bcB4ec4C39bcB4ec4C39bcB5164C39bcB4ec4C39bcBd744C443cB4444C",
  "=America/Resolute",
  "@0 -21600 -18000",
  "~B C 3.2.0/7200 11.1.0/7200",
  ".d5fb8180Bd3280C443cB4444C443cB4444C443cB4444C443cB4444C46dcB41a4C46dcB4444C443cB4444C443cB",
  "4444C443cB4444C443cB4444C46dcB41a4C46dcB4444C443cB4444C443cB4444C443cB3c64C4c1cB3c64C4ebcB",
  "39c4C4ebcB39c4C4ebcB3c64C4c1cB3c64C4c1cB3c64C4ebcB39c4C4ebcB39c4C4ebcB3c64C4c1cB3c64C4c1cB",
  "3c64C4c1cB3c64C4ebcB39c4Cd73cB3c64C4c1cB3c64C4c1cB3c64C4ebcB39c4C4ebcB39c4Cd9dcB",
  "=America/Rio_Branco America/Porto_Acre Brazil/Acre",
  "@-16272 -18000 -14400",
  ".96aa8690B.2164df70C43b0B4564C437cB8eb04C3300B55e0C2d5cB5b84C2dbcB5b84C21bcB5c3a4C1f1cB7e04C",
  "161cB5be4C21bcB5be4C2cfcB5be4C2d5cB974a4C31dcB5404C29fcB5ee4C275cBae724C2e0dcB",
  "=America/Santarem",
  "@-13128 -14400 -10800",
  ".96aa7a48B.2164dda8C43b0B4564C437cB8eb04C3300B55e0C2d5cB5b84C2dbcB5b84C21bcB5c3a4C1f1cB7e04C",
  "161cB5be4C21bcB5be4C2cfcB5be4C2d5cB974a4C31dcB5404C29fcB5ee4C275cBae724C",
  "=America/Santiago Chile/Continental",
  "@-16965 -18000 -14400 -10800",
  "~C D 9.1.6/86400 4.1.6/86400",
  ".8f304745B.c2c9e0bA.41ffd75C.1838efbA.f5e0605C.118c57bB3964C4f7cB3964C4f7cB3964C4f7cB3964C",
  "4fdcB3964C536fcB16e4C21d7cD10dcC50a4B1320Cb7a80D371cC5944D2f3cC4984D39bcC4ec4D39bcC5164D371cC",
  "4c24D3c5cC5164D371cC5164D39bcC4ec4D39bcC4ec4D39bcC5164D371cC5164D371cC5164D39bcC4ec4D39bcC",
  "4ec4D39bcC4ec4D39bcC5164D371cC5164D371cC5164D443cC4444D39bcC4ec4D39bcC5164D371cC46e4D419cC",
  "5164D39bcC4ec4D39bcC4ec4D39bcC4ec4D39bcC5164D371cC5164D3efcC4984D39bcC4984D46dcC46e4D39bcC",
  "5164D371cC5164D371cC5164D371cC5164D39bcC4ec4D39bcC4ec4D39bcC5164D371cC5164D3efcC4984D39bcC",
  "4ec4D419cC46e4D4ebcC2764D5e7cC2f44D593cC31e4D569cC31e4De6fcC2224D665cC2224D665cC2224D593cC",
  "39c4D4ebcC39c4D4ebcC39c4D4ebcC3c64D4c1cC",
  "=America/Santo_Domingo",
  "@-16776 -16800 -18000 -14400 -16200",
  ".69871d08B.51582558C.3f290970D2d5cC16c24E2c3eC5c42E209eC6a82E1ebeC69c2E1f7eC6902E1fdeC68a2D",
  "dea24Cd20D",
  "=America/Sao_Paulo Brazil/East",
  "@-11188 -10800 -7200",
  ".96aa72b4B.2164d72cC43b0B4564C437cB8eb04C3300B55e0C2d5cB5b84C2dbcB5b84C21bcB5b204C30bcB7e04C",
  "161cB5be4C21bcB5be4C2cfcB5be4C2d5cB974a4C31dcB5404C29fcB5ee4C275cB5e84C275cB6124C2c9cB5e84C",
  "2c9cB5be4C29fcB6124C24bcB6124C2f3cB5944C2f3cB5944C2c9cB5944C31dcB5704C36bcB5404C31dcB5404C",
  "371cB5404C31dcB5944C2f3cB6124C275cB5be4C2c9cB61e4C293cB5944C2f3cB6124C29fcB56a4C2f3cB5be4C",
  "2c9cB5be4C2f3cB5944C2f3cB5944C31dcB5944C2c9cB5be4C2c9cB5be4C2f3cB5944C2f3cB5944C2f3cB5944C",
  "2f3cB6124C275cB",
  "=America/Scoresbysund",
  "@-5272 -7200 -3600 0",
  "~B C 3.5.0/-3600 10.5.0/0",
  ".9b804c18B.77cd2228C41a0B4438D443cC4440D4440C4440D4440C4440D46e0C4440D4440C4440D4440C4440D",
  "4440C4440D4440C4440D4440C4440D46e0C4440D4440C4440D4440C4440D4440C4440D4440C4440D4440C46e0D",
  "4ec0C39c0D4ec0C39c0D4ec0C39c0D5160C3720D5160C3720D5160C39c0D4ec0C39c0D4ec0C39c0D5160C3720D",
  "5160C3720D5160C3720D5160C39c0D4ec0C39c0D4ec0C39c0D5160C3720D5160C3720D5160C39c0D4ec0C39c0D",
  "4ec0C39c0D4ec0C39c0D5160C3720D5160C3720D5160C39c0D4ec0C39c0D4ec0C39c0D5160C3720D5160C3720D",
  "5160C8880B",
  "=America/Sitka",
  "@53927 -32473 -28800 -25200 -32400",
  "~E C 3.2.0/7200 11.1.0/7200",
  ".3fc2fdd1B1191b2C.4e01e707D1f25cCc9cc4D443cC4444D443cC4444D46dcC4444D443cC4444D443cC1a44D6e3cC",
  "2ca4D5bdcC4444D46dcC41a4D46dcC4444D443cC4444D443cC4444D443cC4444D443cC4444D46dcC41a4D46dcE",
  "4448C443cE4444C443cE4444C443cE3c64C4c1cE3c64C4ebcE39c4C4ebcE39c4C4ebcE3c64C4c1cE3c64C4c1cE",
  "3c64C4ebcE39c4C4ebcE39c4C4ebcE3c64C4c1cE3c64C4c1cE3c64C4c1cE3c64C4ebcE39c4C4ebcE39c4C4ebcE",
  "3c64C4c1cE3c64C4c1cE3c64C4ebcE39c4C4ebcE39c4C4ebcE31e4C",
  "=America/St_Johns Canada/Newfoundland",
  "@-12652 -9052 -12600 -9000 -5400",
  "~C D 3.2.0/7200 11.1.0/7200",
  ".9ccf620cB3cbcA4e64B497cA4798B251cA6304B443cA4444B443cA46e4B419cA46e4B419cA46e4B419cA46e4B",
  "419cA46e4B443cA4444B443cA46e4B419cA46e4B419cA46e4B419cA46e4B419cA46e4B443cA46e4B419cA46e4B",
  "419cA3908C.30b93cD419cC4988D371cC5164D371cC5164D371cC5404D347cC5404D371cC5164D371cC5164D1d044C",
  "5404D371cC5164D371cC5164D371cC5164D371cC5404D371cC4c24D39bcC4ec4D39bcC4ec4D39bcC4ec4D39bcC",
  "4ec4D39bcC5164D39bcC4ec4D39bcC4ec4D39bcC4ec4D39bcC4ec4D46dcC4444D443cC4444D443cC4444D443cC",
  "4444D443cC4444D46dcC41a4D46dcC4444D443cC4444D443cC4444D443cC4444D443cC4444D46dcC4444D443cC",
  "4444D443cC4444D443cC4444D443cC4444D46dcC41a4D46dcC4444D443cC4444D443cC4444D443cC4444D443cC",
  "4444D46dcC41a4D46dcC4444D443cC4444D443cC4444D443cC.d433acD4c1cC3c64E4eb8C39c8D4ebcC39c4D4ebcC",
  "3c64D4c1cC3c64D4c1cC3c64D4ebcC39c4D4ebcC39c4D4ebcC3c64D4c1cC3c64D4c1cC3c64D4c1cC3c64D4ebcC",
  "39c4D4ebcC39c4D4ebcC3c64D4c1cC3c64D4c1cC3c64D4ebcC39c4D4ebcC39c4D4ebcC31e4D593cC2f44D593cC",
  "2f44D593cC31e4D593cC2f44D.139d2d4C",
  "=America/Swift_Current",
  "@-25880 -25200 -21600",
  ".86fd9618B.17bb1978C497cBc75c4C1f25cB4ec4C3efcB4984C39bcB4ec4C39bcB4ec4C39bcB40f84C443cBccc4C",
  "443cB4444C39bcB5164C371cB5aba4C",
  "=America/Tegucigalpa",
  "@-20932 -21600 -18000",
  ".a44c4b44B.7c4e919cC371cB5164C371cB96c64C227cB",
  "=America/Thule",
  "@-16508 -14400 -10800",
  "~B C 3.2.0/7200 11.1.0/7200",
  ".9b8077fcB.8c7502e4C443cB4444C443cB46e4C4ebcB39c4C4ebcB39c4C4ebcB3c64C4c1cB3c64C4c1cB3c64C",
  "4c1cB3c64C4ebcB39c4C4ebcB39c4C4ebcB3c64C4c1cB3c64C4c1cB3c64C4ebcB39c4C4ebcB39c4C4ebcB31e4C",
  "=America/Tijuana America/Ensenada America/Santa_Isabel Mexico/BajaNorte",
  "@-28084 -25200 -28800",
  "~C B 3.2.0/7200 11.1.0/7200",
  ".a5b6e870B111c0C1d704B1d63cC3364B443cC5a724B1e7dcC14704B6a7cCb104B36bcC516cB39bcC4ec4B39bcC",
  "4ec0B39c0C4ec0B39c0C4ec0B39c0C5160B39c0C4ec0B39c0C4ec0B39c0C4ec0B39c0C4ec0B39c0C5160B3720C",
  "5160B4440C4440B4440C4440B4440C4440B46e0C41a0B46e0C4444B443cC4444B443cC4444B443cC4444B443cC",
  "4444B46dcC4444B443cC4444B443cC1a44B6e3cC2ca4B5bdcC4444B46dcC41a4B46dcC4444B443cC4444B443cC",
  "4444B443cC4444B443cC4444B46dcC41a4B46dcC4444B443cC4444B443cC4444B443cC3c64B4c1cC3c64B4ebcC",
  "39c4B4ebcC39c4B4ebcC3c64B4c1cC3c64B4c1cC3c64B4ebcC39c4B4ebcC39c4B4ebcC3c64B4c1cC3c64B4c1cC",
  "3c64B4c1cC3c64B4ebcC39c4B4ebcC39c4B4ebcC3c64B4c1cC3c64B4c1cC3c64B4ebcC39c4B4ebcC39c4B4ebcC",
  "39c4B4ebcC3c64B4c1cC3c64B4c1cC3484B",
  "=America/Toronto America/Montreal America/Nassau America/Nipigon America/Thunder_Bay",
  "=Canada/Eastern",
  "@-19052 -18000 -14400",
  "~B C 3.2.0/7200 11.1.0/7200",
  ".72ee78ecB.2bca1a84C497cB3a1aC4e5eB46ecC3714B56acC2e1cB5a64C2f3cB5944C2f3cB56a4C347cB5404C",
  "347cB5404C347cB5404C371cB5164C39bcB4ec4C39bcB4ec4C39bcB4ec4C39bcB5164C371cB5164C39bcB4ec4C",
  "39bcB4ec4C39bcB4ec4C39bcB4ec4C39bcB4ec4C39bcB5164C371cB5164C2e6dcB4ec4C39bcB4ec4C39bcB4ec4C",
  "39bcB4ec4C515cB39c4C4ebcB39c4C39bcB4ec4C39bcB4ec4C39bcB4ec4C39bcB4ec4C39bcB5164C39bcB4ec4C",
  "443cB4444C443cB4444C443cB4444C46dcB4444C443cB4444C443cB4444C443cB4444C443cB4444C46dcB41a4C",
  "46dcB4444C443cB4444C443cB4444C443cB4444C443cB4444C46dcB4444C443cB4444C443cB4444C443cB4444C",
  "443cB4444C46dcB41a4C46dcB4444C443cB4444C443cB4444C443cB4444C443cB4444C46dcB41a4C46dcB4444C",
  "443cB4444C443cB4444C443cB3c64C4c1cB3c64C4ebcB39c4C4ebcB39c4C4ebcB3c64C4c1cB3c64C4c1cB3c64C",
  "4ebcB39c4C4ebcB39c4C4ebcB3c64C4c1cB3c64C4c1cB3c64C4c1cB3c64C4ebcB39c4C4ebcB39c4C4ebcB3c64C",
  "4c1cB3c64C4c1cB3c64C4ebcB39c4C4ebcB39c4C4ebcB31e4C",
  "=America/Vancouver Canada/Pacific",
  "@-29548 -28800 -25200",
  "~B C 3.2.0/7200 11.1.0/7200",
  ".5e3d76ecB.407b46b4C497cBc75c4C1f25cB4ec4C39bcB4ec4C39bcB4ec4C39bcB4ec4C39bcB5164C371cB5164C",
  "39bcB4ec4C39bcB4ec4C39bcB4ec4C39bcB4ec4C39bcB5164C39bcB4ec4C39bcB4ec4C39bcB4ec4C39bcB4ec4C",
  "39bcB5164C371cB5164C443cB4444C443cB4444C443cB4444C46dcB41a4C46dcB4444C443cB4444C443cB4444C",
  "443cB4444C443cB4444C46dcB4444C443cB4444C443cB4444C443cB4444C443cB4444C46dcB41a4C46dcB4444C",
  "443cB4444C443cB4444C443cB4444C443cB4444C46dcB41a4C46dcB4444C443cB4444C443cB4444C443cB3c64C",
  "4c1cB3c64C4ebcB39c4C4ebcB39c4C4ebcB3c64C4c1cB3c64C4c1cB3c64C4ebcB39c4C4ebcB39c4C4ebcB3c64C",
  "4c1cB3c64C4c1cB3c64C4c1cB3c64C4ebcB39c4C4ebcB39c4C4ebcB3c64C4c1cB3c64C4c1cB3c64C4ebcB39c4C",
  "4ebcB39c4C4ebcB31e4C",
  "=America/Whitehorse Canada/Yukon",
  "@-32412 -32400 -28800 -25200",
  ".7d868a9cB.21324114C497cB4ec4C3bf4Bbeb0cC1f25cBa781cD46e0B2ca0C793e4D443cC4444D443cC4444D46dcC",
  "41a4D46dcC4444D443cC4444D443cC4444D443cC3c64D4c1cC3c64D4ebcC39c4D4ebcC39c4D4ebcC3c64D4c1cC",
  "3c64D4c1cC3c64D4ebcC39c4D4ebcC39c4D4ebcC3c64D4c1cC3c64D4c1cC3c64D4c1cC3c64D4ebcC39c4D4ebcC",
  "39c4D4ebcC3c64D4c1cC3c64D4c1cC3c64D4ebcC39c4D4ebcC39c4D4ebcC31e4D593cC2f44D593cC2f44D593cC",
  "31e4D593cC2f44D593cC2f44D593cC2f44D593cC2f44D593cC2f44D593cC31e4D593cC2f44D593cC2f44D593cC",
  "2f44D593cC2f44D",
  "=America/Winnipeg America/Rainy_River Canada/Central",
  "@-23316 -21600 -18000",
  "~B C 3.2.0/7200 11.1.0/7200",
  ".64e4b094B.361d4b4cC371cBd74cC497cB9ed04C31dcB256e4C1f25cB5404C39bcB4984C39bcB4ec4C39bcB4ec4C",
  "39bcB51c4C38fcB4f24C39bcB4ec4C39bcB4ec4C39bcB4ec4C39bcB4ec4C39bcB5164C39bcB4ec4C39bcB4ec4C",
  "39bcB4ec4C443cB4444C39bcB16264C371cB16264C46e0B4440C4440B4440C4440B4440C4440B4440C4440B4440C",
  "46e0B4440C4440B4440C4440B4440C4440B4440C4440B4440C46e0B41a0C46e0B4440C4440B4440C4440B4440C",
  "4440B4440C4440B4440C46e0B41a0C46e0B4440C4440B4440C4440B4440C4440B3c60C4c20B3c60C4ec0B39c0C",
  "4ec0B39c0C4ec0B3c60C4c20B3c60C4c20B3c60C4ec0B39c0C4ec0B39c0C4ec0B3c60C4c20B3c60C4c20B3c60C",
  "4c20B3c60C4ec0B39c0C4ec0B39c0C4ec0B3c60C4c20B3c60C4c20B3c60C4ec0B39c0C4ec0B39c0C4ebcB31e4C",
  "=America/Yakutat",
  "@52865 -33535 -32400 -28800",
  "~C D 3.2.0/7200 11.1.0/7200",
  ".3fc2fdd1B.3dc439eeC.4e01f0f1D1f25cCc9cc4D443cC4444D443cC4444D46dcC4444D443cC4444D443cC1a44D",
  "6e3cC2ca4D5bdcC4444D46dcC41a4D46dcC4444D443cC4444D443cC4444D443cC4444D443cC4444D46dcC41a4D",
  "46dcC4444D443cC4444D443cC4444D443cC3c64D4c1cC3c64D4ebcC39c4D4ebcC39c4D4ebcC3c64D4c1cC3c64D",
  "4c1cC3c64D4ebcC39c4D4ebcC39c4D4ebcC3c64D4c1cC3c64D4c1cC3c64D4c1cC3c64D4ebcC39c4D4ebcC39c4D",
  "4ebcC3c64D4c1cC3c64D4c1cC3c64D4ebcC39c4D4ebcC39c4D4ebcC31e4D",
  "=Antarctica/Casey",
  "@0 28800 39600",
  ".fe1ecc80B15d368C33b4Be1ccC2bdcB27efcCbd64B4eccC3c50B4b6cC3a74B.114db3cC.d41714B.10bcaecC",
  ".d41714B.10bcaecC.d04cc4B",
  "=Antarctica/Davis",
  "@0 25200 18000",
  ".e79c4000B42c44A2467cB15c7ccC3604Bdf7cC2be4B",
  "=Antarctica/Macquarie",
  "@0 36000 39600",
  "~B C 10.1.0/7200 4.1.0/10800",
  ".7c051600B90ca0C41a0B11458Af81e8Ba7140C4440B4ec0C31e0B56a0C31e0B56a0C3480B56a0C2ca0B5be0C2f40B",
  "5940C2f40B5940C2f40B5940C31e0B5940C2f40B5940C2f40B5940C2f40B5940C2f40B5940C2f40B5940C39c0B",
  "5160C3720B5160C2f40B5940C2f40B5940C2f40B56a0C3720B5400C3720B5400C3480B5400C3480B5400C39c0B",
  "46e0C41a0B46e0C41a0B46e0C41a0B46e0C41a0B46e0C4440B46e0C41a0B46e0C41a0B46e0C41a0B46e0C41a0B",
  "39c0C4ec0B4980C41a0B46e0C41a0B46e0C41a0B46e0C41a0B46e0C4440B4440C41a0B4980C",
  "=Antarctica/Mawson",
  "@0 21600 18000",
  ".e2203280B1dc9f0C",
  "=Antarctica/Palmer",
  "@0 -10800 -14400 -7200",
  ".f698ad00B162cC5584B335cC5584B3f5cC4444B46dcC4444B443cC4444B24d1cD24bcB447c4C3cc4B39bcC4ec4B",
  "39bcC5164B371cC5164B371cC5164B443cC4444B39bcC4ec4B39bcC5164B371cC46e4B419cC5164B39bcC4ec4B",
  "39bcC4ec4B39bcC4ec4B39bcC5164B371cC5164B3efcC4984B39bcC4984B46dcC46e4B39bcC5164B371cC5164B",
  "371cC5164B371cC5164B39bcC4ec4B39bcC4ec4B39bcC5164B371cC5164B3efcC4984B39bcC4ec4B419cC46e4B",
  "4ebcC2764B5e7cC2f44B593cC31e4B569cC31e4Be6fcC2224B",
  "=Antarctica/Rothera",
  "@0 -10800",
  ".10d022d00B",
  "=Antarctica/Troll",
  "@0 7200",
  "~A B 3.5.0/3600 10.5.0/10800",
  ".142460590B",
  "=Antarctica/Vostok",
  "@0 25200 18000",
  ".e9588980B135464A667cBf958cC",
  "=Asia/Almaty",
  "@18468 18000 21600 25200",
  ".aa197bdcB.b8a7354C1b2b1cD449cC4444D449cC4444D449cC44a4D4448C4440D4440C4440D4440C4440D4440C",
  "4440D4440C4440D4440C4440D46e0C8884B2a00C1a3cD4440C4440D4440C4440D4440C4440D4440C46e0D4ec0C",
  "39c0D4ec0C39c0D4ec0C39c0D5160C3720D5160C3720D5160C39c0D4ec0C39c0D4ec0C39c0D5160Ca57d8B",
  "=Asia/Amman",
  "@8624 7200 10800",
  ".b6a3d6d0B.4fcea310C2bdcB4f84C395cB4f84C395cB4fe4C44fcB43e4C395cB4f24C395cB37aa4C449cB4564C",
  "443cB4444C443cB4444C46dcB4fe4C389cB4c24C3c5cB48c4C3d1cB4984C419cB4444C443cB4444C3efcB4c24C",
  "3c60B4c20C3f00B4980C3f00B4980C3f00B6b40C1fe0B4680C44a0B43e0C44a0B4440C4440B4440C4ec0B39c0C",
  "4c20B3f00C4440B4440C4ec0B39c0C4ec0B39c0C5160B3720C5160B3720C5160B39c0C4ec0B39c0Cec3cB24c4C",
  "5160B3720C5160B39c0C4ec0B39c0C4ec0B39c0C4ec0B39c0C4ec0B39c0C5160B3720C5160B2ca0C",
  "=Asia/Anadyr",
  "@42596 43200 46800 50400 39600",
  ".aa191d9cB.b8a6f24C1b2b1cD449cC88e4B4444C449cB44a4C4448B4440C4440B4440C4440B4440C4440B4440C",
  "4440B4440C4440B4440C46e0B8884E2a00B1a3cC4440B4440C4440B4440C4440B4440C4440B46e0C4ec0B39c0C",
  "4ec0B39c0C4ec0B39c0C5160B3720C5160B3720C5160B39c0C4ec0B39c0C4ec0B39c0C5160B3720C5160B3720C",
  "5160B3720C5160B39c0C4ec0B39c0C4ec0B8b24E3720B",
  "=Asia/Aqtau",
  "@12064 14400 18000 21600",
  ".aa1994e0B.b8a6860C1b6fbcD88dcC4444D449cC44a4D4448C4440D4440C4440D4440C4440D4440C4440D4440C",
  "4440D4440C4440D46e0C8884B2a00C1a3cD4440C4440D4440C4440D4440B4444C4440B46e0C4ec0B39c0C4ec0B",
  "39c0C4ec0B39c0C5160B3720C5160B3720C5160B39c0C4ec0B39c0C4ec0B39c0C",
  "=Asia/Aqtobe",
  "@13720 14400 18000 21600",
  ".aa198e68B.b8a6ed8C1b2b1cDcd7cC4444D449cC44a4D4448C4440D4440C4440D4440C4440D4440C4440D4440C",
  "4440D4440C4440D46e0C8884B2a00C1a3cD4440C4440D4440C4440D4440C4440D4440C46e0D4ec0C39c0D4ec0C",
  "39c0D4ec0C39c0D5160C3720D5160C3720D5160C39c0D4ec0C39c0D4ec0C39c0D5160C",
  "=Asia/Ashgabat Asia/Ashkhabad",
  "@14012 14400 18000 21600",
  ".aa198d44B.b8a6ffcC1b2b1cD449cC4444D449cC4444D449cC44a4D4448C4440D4440C4440D4440C4440D4440C",
  "4440D4440C4440D4440C4440D46e0C8884B2a00C",
  "=Asia/Atyrau",
  "@12464 10800 18000 21600 14400",
  ".aa199350B.b8a7800C1b6fb8D88dcC4444D449cC44a4D4448C4440D4440C4440D4440C4440D4440C4440D4440C",
  "4440D4440C4440D46e0C8884E2a00C1a3cD4440C4440D4440C4440D4440C4440D4440C46e0D4ec0C39c0D4ec0C",
  "39c0D4ec0C8b24E3720C5160E3720C5160E39c0C4ec0E39c0C4ec0E39c0C",
  "=Asia/Baghdad",
  "@10660 10656 10800 14400",
  ".6986b1dcB.34a98b04C.79002b70D395cC43e4D44fcC44a4D449cC4444D43e4C4440D4440C4440D4440C4440D",
  "4440C4440D4440C4440D46e0C44a8D44a0C44a0D44a0C4440D44a0C4440D44a0C4440D44a0C44a0D44a0C4440D",
  "44a0C4440D44a0C4440D44a0C44a0D44a0C4440D44a0C4440D44a0C4440D44a0C44a0D44a0C4440D44a0C4440D",
  "44a0C4440D44a0C",
  "=Asia/Baku",
  "@11964 10800 14400 18000",
  ".aa199544B.3dc0770cCce2dcD449cC4444D449cC4444D449cC44a4D4448C4440D4440C4440D4440C4440D4440C",
  "4440D4440C4440D4440C4440D46e0C8884B4440C224a8D4ec0C39bcD4ec0C39c0D4ec0C39c0D5160C3720D5160C",
  "3720D5160C39c0D4ec0C39c0D4ec0C39c0D5160C3720D5160C3720D5160C3720D5160C39c0D4ec0C39c0D4ec0C",
  "39c0D5160C3720D5160C3720D5160C39c0D4ec0C39c0D4ec0C39c0D4ec0C",
  "=Asia/Bangkok Asia/Phnom_Penh Asia/Vientiane Indian/Christmas",
  "@24124 25200",
  ".a26a67c4B",
  "=Asia/Barnaul",
  "@20100 21600 25200 28800",
  ".a1d57dfcB.13ce6324C1b2b1cD449cC4444D449cC4444D449cC44a4D4448C4440D4440C4440D4440C4440D4440C",
  "4440D4440C4440D4440C4440D46e0C8884B2a00C1a3cD4440C4440D4440C4440D4440C4440D1794C2cb0B46e0C",
  "4ec0B39c0C4ec0B39c0C4ec0B39c0C5160B3720C5160B3720C5160B39c0C4ec0B39c0C4ec0B39c0C5160B3720C",
  "5160B3720C5160B3720C5160B39c0C4ec0B39c0C4ec0B39c0C5160B3720C1eadcBc244C",
  "=Asia/Beirut",
  "@8520 7200 10800",
  "~B C 3.5.0/0 10.5.0/0",
  ".56b6c2b8B.4baea128C4f1cB3c04C449cB4144C497cB4984C371cB11fd64C395cB4f84C395cB4f84C395cB4fe4C",
  "395cB4f84C395cB5bce4C25dcB4f84C395cB4f84C395cB4f84C395cB4fe4C395cB4f84C395cB4f24C395cB2fd04C",
  "3efcB49e4C3efcB49e4C3efcB49e4C3efcB55e4C335cB4d44C3b9cB49e4C3efcB49e4C3efcB4a44C3a7cB41a4C",
  "443cB4444C443cB4444C443cB46e4C443cB4444C443cB4444C443cB4444C",
  "=Asia/Bishkek",
  "@17904 18000 21600 25200",
  ".aa197e10B.b8a7120C1b2b1cD449cC4444D449cC4444D449cC44a4D4448C4440D4440C4440D4440C4440D4440C",
  "4440D4440C4440D4440C4440D46e0C7da0B545cC3efcB4984C3efcB4984C3efcB4984C3efcB4984C419cB444eC",
  "4ebcB39c4C4ebcB39c4C515cB3724C515cB3724C515cB39c4C4ebcB39c4C4ebcB39c4C515cB3724C",
  "=Asia/Chita",
  "@27232 28800 32400 36000",
  ".a1dbf9a0B.13c7cb60C1b2b1cD449cC4444D449cC4444D449cC44a4D4448C4440D4440C4440D4440C4440D4440C",
  "4440D4440C4440D4440C4440D46e0C8884B2a00C1a3cD4440C4440D4440C4440D4440C4440D4440C46e0D4ec0C",
  "39c0D4ec0C39c0D4ec0C39c0D5160C3720D5160C3720D5160C39c0D4ec0C39c0D4ec0C39c0D5160C3720D5160C",
  "3720D5160C3720D5160C39c0D4ec0C39c0D4ec0C39c0D5160C3720D1eadcBc248C",
  "=Asia/Colombo",
  "@19164 19172 19800 21600 23400",
  ".56b69924B.30e723f8C.43bc5f0cD599eE1abe6C1b137cE39beD510c2C",
  "=Asia/Damascus",
  "@8712 7200 10800",
  ".a1f2ab78B.8e8408C3efcB4984C3efcB4984C3efcB4984C419cB14a184C3a1cB4f84C38fcB5044C395cB4f84C",
  "38fcB4d44C3bfcB4f84C395cB4fe4C395cB4f84C395cB4f84C395cB4f84C395cB4fe4C395cB4f84C395cB4f84C",
  "395cB4f84C395cB4fe4C395cB4f84C2e1cB5ac4C2e1cB27664C419cB47a4C419cBbca4C581cB35a4C5b7cB3304C",
  "563cB38a4C44fcB4444C443cB449cC449cB4744C41fcB4204C449cB4684C449cB4444C449cB44a4C449cB43e4C",
  "44fcB4384C455cB4444C449cB44a4C449cB4444C449cB4444C449cB4444C449cB44a4C449cB4444C449cB4444C",
  "413cB46e4C515cB39c4C4f1cB36c4C515cB39c4C4ebcB39c4C4ebcB39c4C4ebcB39c4C4ebcB39c4C515cB3724C",
  "515cB3724C515cB39c4C4ebcB39c4C4ebcB39c4C4ebcB39c4C515cB3724C515cB3724C",
  "=Asia/Dhaka Asia/Dacca",
  "@21700 21200 23400 19800 21600 25200",
  ".698686bcB.6154fff4C.129ea68D28e4C4db7cE1ee21eF4920E",
  "=Asia/Dili",
  "@30140 28800 32400",
  ".92e61e00B1020bcC124b60Bd0aa4C",
  "=Asia/Dubai Asia/Muscat Indian/Mahe Indian/Reunion",
  "@13272 14400",
  ".a1f299a8B",
  "=Asia/Dushanbe",
  "@16512 18000 21600 25200",
  ".aa198380B.b8a6bb0C1b2b1cD449cC4444D449cC4444D449cC44a4D4448C4440D4440C4440D4440C4440D4440C",
  "4440D4440C4440D4440C4440D46e0C8104B",
  "=Asia/Famagusta",
  "@8148 7200 10800",
  "~B C 3.5.0/10800 10.5.0/14400",
  ".a5771e2cB.647691b4C443cB5104C37dcB4144C419cB46e4C449cB43e4C443cB46e4C419cB4444C443cB4444C",
  "443cB4444C443cB4444C46dcB4444C443cB4444C443cB4444C443cB4444C443cB4444C443cB4444C46dcB4444C",
  "443cB4444C443cB4444C443cB4444C443cB4444C443cB46e4C443cB4444C443cB4444C4eccB",
  "=Asia/Gaza",
  "@8272 7200 10800",
  "~B C 3.4.4/180000 10.4.4/180000",
  ".7dbd4ab0B.4a9c8450C2dc0B11a0C10bc0B38a0C5040B3900C5040B3e40C4aa0B3e40C4aa0B5a118C35fcB4f84C",
  "395cB4f88C3904B503cC3904B4fdcC3904B4fdcC3904B4fdcC3904B503cC3904B4fdcC3904B4fdcC3964B4f7cCd18B",
  "3cae4C24bcB46e4C31dcB2a2a4Cfc0B1f2c0C2a00B56a0C347cB6124C29fcB5284C389cB4ec4C371cB5944C2f3cB",
  "4c24C39bcB4ec4C3c5cB4ec4C3c5cB4e04C3a7cB4e04C37dcB50a4C3a7cB50a4C3f00B4980C3f00B4980C3f00B",
  "4ec0C443cB46e4C443cB4444C443cB4444C443cB4444C443cB4444C3f00B4980C4084B431cC413cB47a4C3de4B",
  "49dcC39bcB4ec4C3c60B.10cf23cC.b48f34B.1333bccC.a0c8b4B5ac4C41a0B46e0C443cB4444C4ebcB3a24C4e60B",
  "3a24C515cB3724C515cB3724C515cB3960C4f1cB39c4C4ec0B39c0C5100B37e0C5104B4444C443cB41a4C46dcB",
  "3f04C497cB39c4C4ebcB39c4C515cB3724C515cB3724C515cB39c4C4ebcB39c4C4ebcB39c4C515cB3724C515cB",
  "3724C515cB3724C515cB39c4C4c1cB3c64C497cB3f04C443cB4444C419cB46e4C3c5cB1264C29cB39c4C371cBfc4C",
  "7dcB39c4C347cBfc4Ca7cB39c4C2f3cB1264Cd1cB39c4C2c9cBfc4C14fcB3724C29fcBfc4C179cB3724C24bcB1264C",
  "1a3cB39c4C1f7cBfc4C1f7cB39c4C1a3cB1264C221cB39c4C179cBfc4C29fcB3724C14fcBfc4C2c9cB3724CfbcB",
  "1264C2f3cB39c4Ca7cBfc4C347cB39c4C53cB1264C371cB39c4C29cB1264C39bcB4984C419cB4444C443cB3f04C",
  "497cB3c64C4c1cB39c4C4ebcB39c4C515cB3724C515cB3724C515cB3724C515cB39c4C4ebcB39c4C4ebcB39c4C",
  "515cB3724C515cB3724C4ebcB3c64C497cB3f04C46dcB41a4C419cB46e4C3efcBfc4C29cB3724C3c5cBfc4C53cB",
  "3724C371cB1264C7dcB39c4C31dcBfc4Cd1cB39c4C2c9cB1264CfbcB39c4C29fcB1264C14fcB3724C275cBfc4C",
  "1a3cB3724C221cB1264C1cdcB39c4C1cdcBfc4C221cB39c4C1a3cBfc4C24bcB39c4C14fcB1264C275cB39c4C125cB",
  "fc4C2f3cB3724Cd1cB1264C31dcB3724Ca7cB1264C347cB39c4C53cBfc4C39bcB",
  "=Asia/Hebron",
  "@8423 7200 10800",
  "~B C 3.4.4/180000 10.4.4/180000",
  ".7dbd4a19B.4a9c84e7C2dc0B11a0C10bc0B38a0C5040B3900C5040B3e40C4aa0B3e40C4aa0B5a118C35fcB4f84C",
  "395cB4f88C3904B503cC3904B4fdcC3904B4fdcC3904B4fdcC3904B503cC3904B4fdcC3904B4fdcC3964B4f7cCd18B",
  "3cae4C24bcB46e4C31dcB2a2a4Cfc0B1f2c0C2a00B56a0C347cB6124C29fcB5284C389cB4ec4C371cB5944C2f3cB",
  "4c24C39bcB4ec4C3c5cB4ec4C3c5cB4e04C3a7cB4e04C37dcB50a4C3a7cB50a4C3f00B4980C3f00B4980C3f00B",
  "4ec0C443cB46e4C443cB4444C443cB4444C443cB4444C443cB4444C3f00B4980C4084B431cC413cB47a4C3de4B",
  "49dcC3adcB4da4C3c60B4c20C33bcB.1333bccC.a0c8b4Bae4Cb9cB4444C41a0B46e0C443cB4444C4ebcB3a24C",
  "4e60B3a24C515cB3724C515cB3724C515cB3960C4f1cB39c4C4ec0B39c0C5100B37e0C5104B4444C443cB41a4C",
  "46dcB3f04C497cB39c4C4ebcB39c4C515cB3724C515cB3724C515cB39c4C4ebcB39c4C4ebcB39c4C515cB3724C",
  "515cB3724C515cB3724C515cB39c4C4c1cB3c64C497cB3f04C443cB4444C419cB46e4C3c5cB1264C29cB39c4C371cB",
  "fc4C7dcB39c4C347cBfc4Ca7cB39c4C2f3cB1264Cd1cB39c4C2c9cBfc4C14fcB3724C29fcBfc4C179cB3724C24bcB",
  "1264C1a3cB39c4C1f7cBfc4C1f7cB39c4C1a3cB1264C221cB39c4C179cBfc4C29fcB3724C14fcBfc4C2c9cB3724C",
  "fbcB1264C2f3cB39c4Ca7cBfc4C347cB39c4C53cB1264C371cB39c4C29cB1264C39bcB4984C419cB4444C443cB",
  "3f04C497cB3c64C4c1cB39c4C4ebcB39c4C515cB3724C515cB3724C515cB3724C515cB39c4C4ebcB39c4C4ebcB",
  "39c4C515cB3724C515cB3724C4ebcB3c64C497cB3f04C46dcB41a4C419cB46e4C3efcBfc4C29cB3724C3c5cBfc4C",
  "53cB3724C371cB1264C7dcB39c4C31dcBfc4Cd1cB39c4C2c9cB1264CfbcB39c4C29fcB1264C14fcB3724C275cBfc4C",
  "1a3cB3724C221cB1264C1cdcB39c4C1cdcBfc4C221cB39c4C1a3cBfc4C24bcB39c4C14fcB1264C275cB39c4C125cB",
  "fc4C2f3cB3724Cd1cB1264C31dcB3724Ca7cB1264C347cB39c4C53cBfc4C39bcB",
  "=Asia/Ho_Chi_Minh Asia/Saigon",
  "@25590 25200 28800 32400",
  ".91a32b0aB.3b92bb76C12d7cD4020Bd808C469e0B268dcC843c0B",
  "=Asia/Hong_Kong Hongkong",
  "@27402 28800 32400 30600",
  ".85696390B139868C2880D1fd2C21606B39bcC540eB31e0C56a0B39c0C4440B39c0C4ec0B39c0C4ec0B39c0C4ec0B",
  "3c60C4ec0B39c0C4ebcB3484C53fcB3484C569cB31e4C569cB3484C53fcB3484C53fcB3484C53fcB3484C569cB",
  "31e4C569cB31e4C569cB3484C53fcB3484C53fcB3f04C443cB4444C443cB4444C46dcB4444C443cB4444C443cB",
  "4444C443cB4444C443cB4444C46dcB4444C443cB1a44C6e3cB4444C443cB4444C443cB15fc4C3c5cB",
  "=Asia/Hovd",
  "@21996 21600 25200 28800",
  ".86d3fc94B.8837ee0cC2ce7cD449cC44a4D443cC4444D443cC4444D443cC4444D443cC4444D443cC4444D443cC",
  "4444D46dcC4444D443cC4444D443cC4444D443cC4444D443cC4444D443cC46e4D443cC4444D443cC4444D443cC",
  "1620cD39bcC4444D443cC4444D443cC4444D443cC4444D443cC4444D46dcC48ae4D4434C444cD4434C",
  "=Asia/Irkutsk",
  "@25025 25200 28800 32400",
  ".a2120fbfB.1391c351C1b2b1cD449cC4444D449cC4444D449cC44a4D4448C4440D4440C4440D4440C4440D4440C",
  "4440D4440C4440D4440C4440D46e0C8884B2a00C1a3cD4440C4440D4440C4440D4440C4440D4440C46e0D4ec0C",
  "39c0D4ec0C39c0D4ec0C39c0D5160C3720D5160C3720D5160C39c0D4ec0C39c0D4ec0C39c0D5160C3720D5160C",
  "3720D5160C3720D5160C39c0D4ec0C39c0D4ec0C39c0D5160C3720D1eadcC",
  "=Asia/Jakarta",
  "@25632 26400 27000 32400 28800 25200",
  ".a97885e0B4ba20C.11a8a528D1dffaC164a6E111beC75062F",
  "=Asia/Jayapura",
  "@33768 32400 34200",
  ".ba16c198B.1641f858Ca57deB",
  "=Asia/Jerusalem Asia/Tel_Aviv Israel",
  "@8454 8440 7200 10800 14400",
  "~C D 3.4.4/93600 10.5.0/7200",
  ".56b6c2faB.4779828eC.2a298978D2dc0C11a0D10bc0C38a0D5040C3900D5040C3e40D4aa0C3e40D4aa0Cd560E",
  "25e0D16e0C43e0D4500C3e40D3900C4a40D5400C3c60D4440C41a0D39c0C6660D2220C6660D2220C63c0D2ca0C",
  "4ec0D3720C8fb78D24bcC46e4D31dcC2a2a4Dfc0C1f2c0D2a00C56a0D347cC6124D29fcC5284D389cC4ec4D371cC",
  "5944D2f3cC4c24D39bcC4ec4D3c5cC4ec4D3c5cC4e04D3a7cC4e04D37dcC50a4D3a7cC48c4D455cC45c4D425cC",
  "4624D3fbcC4e0cD39bcC5404D4198C4564D3efcC45c4D47fcC4084D46dcC4624D3efcC47a8D479cC40e4D44fcC",
  "4384D3fbcC48c4D479cC40e4D44fcC4384D3fbcC4b64D44fcC4384D425cC4624D",
  "=Asia/Kabul",
  "@16608 14400 16200",
  ".69869aa0B.67733ca0C",
  "=Asia/Kamchatka",
  "@38076 39600 43200 46800",
  ".a75296c4B.e51040cC1b2b1cD449cC4444D449cC4444D449cC44a4D4448C4440D4440C4440D4440C4440D4440C",
  "4440D4440C4440D4440C4440D46e0C8884B2a00C1a3cD4440C4440D4440C4440D4440C4440D4440C46e0D4ec0C",
  "39c0D4ec0C39c0D4ec0C39c0D5160C3720D5160C3720D5160C39c0D4ec0C39c0D4ec0C39c0D5160C3720D5160C",
  "3720D5160C3720D5160C39c0D4ec0C39c0D4ec0C8b24B3720C",
  "=Asia/Karachi",
  "@16092 19800 23400 18000 21600",
  ".897efca4B.43163604C1ab7cB33004D1b0782E443cD30664E395cD3de4E4afcD",
  "=Asia/Kathmandu Asia/Katmandu",
  "@20476 19800 20700",
  ".a1f27d84B.7c25b324C",
  "=Asia/Khandyga",
  "@32533 28800 32400 36000 39600",
  ".a1dbe4ebB.13c7e015C1b2b1cD449cC4444D449cC4444D449cC44a4D4448C4440D4440C4440D4440C4440D4440C",
  "4440D4440C4440D4440C4440D46e0C8884B2a00C1a3cD4440C4440D4440C4440D4440C4440D4440C46e0D4ec0C",
  "39c0D4ec0C39c0D4ec0C39c0D5160C3720D5160C3720D5160C39c0D4ec0C39c0D4ec0C1918D20a4E5160D3720E",
  "5160D3720E5160D3720E5160D39c0E4ec0D39c0E4ec0D39c0E5160D3720E3fb4D1ab2cC",
  "=Asia/Kolkata Asia/Calcutta",
  "@21208 21200 19270 19800 23400",
  ".26ba1828B.1d2dd308C.43b5d18aD.433dcf6eE54bcD28e4E1ab7cD",
  "=Asia/Krasnoyarsk",
  "@22286 21600 25200 28800",
  ".a1f90df2B.13aad32eC1b2b1cD449cC4444D449cC4444D449cC44a4D4448C4440D4440C4440D4440C4440D4440C",
  "4440D4440C4440D4440C4440D46e0C8884B2a00C1a3cD4440C4440D4440C4440D4440C4440D4440C46e0D4ec0C",
  "39c0D4ec0C39c0D4ec0C39c0D5160C3720D5160C3720D5160C39c0D4ec0C39c0D4ec0C39c0D5160C3720D5160C",
  "3720D5160C3720D5160C39c0D4ec0C39c0D4ec0C39c0D5160C3720D1eadcC",
  "=Asia/Kuching Asia/Brunei",
  "@26480 27000 28800 30000 32400",
  ".ad8a0690B.cdd40f8C171beD.77f3d0C.16a9130D.77f3d0C.1693fb0D.77f3d0C.1693fb0D.77f3d0C.1693fb0D",
  ".77f3d0C.16a9130D.77f3d0C.1693fb0D.77f3d0C.5464b0E1e8fcC",
  "=Asia/Macau Asia/Macao",
  "@27250 28800 32400 36000",
  ".85695b8eB.45de1a62C30bcD4b5cC3d84D395cC11228B4f80C3960B4b60C5460B39c0C4440B3960C4ec0B39c0C",
  "4ec0B39c0C4f20B3c00C4ec0B39c0C4ec0B3480C5400B3480C56a0B31e0C56aeB3484C53fcB3484C53fcB3484C",
  "53fcB3484C569cB31e4C569cB31e4C569cB3484C53fcB3484C53fcB3f04C4438B4448C4438B4448C46dcB4444C",
  "443cB4444C443cB4444C443cB4444C443cB4444C46dcB4444C443cB1a44C6e3cB4444C443cB4444C443cB15fc4C",
  "3c5cB",
  "=Asia/Magadan",
  "@36192 36000 39600 43200",
  ".aa1936a0B.b8a7240C1b2b1cD449cC4444D449cC4444D449cC44a4D4448C4440D4440C4440D4440C4440D4440C",
  "4440D4440C4440D4440C4440D46e0C8884B2a00C1a3cD4440C4440D4440C4440D4440C4440D4440C46e0D4ec0C",
  "39c0D4ec0C39c0D4ec0C39c0D5160C3720D5160C3720D5160C39c0D4ec0C39c0D4ec0C39c0D5160C3720D5160C",
  "3720D5160C3720D5160C39c0D4ec0C39c0D4ec0C39c0D5160C3720D1eadcBccc8C",
  "=Asia/Makassar Asia/Ujung_Pandang",
  "@28656 28800 32400",
  ".ba16d590B.117147f0C1efbcB",
  "=Asia/Manila",
  "@-57368 29032 28800 32400",
  ".14e1dc18B.66d99e28C13e090D1c7cC2a124D21e3cC47944D143cCc3484D42bcC6c604D19dcC",
  "=Asia/Nicosia Europe/Nicosia",
  "@8008 7200 10800",
  "~B C 3.5.0/10800 10.5.0/14400",
  ".a5771eb8B.64769128C443cB5104C37dcB4144C419cB46e4C449cB43e4C443cB46e4C419cB4444C443cB4444C",
  "443cB4444C443cB4444C46dcB4444C443cB4444C443cB4444C443cB4444C443cB4444C443cB4444C46dcB4444C",
  "443cB4444C443cB4444C443cB4444C443cB4444C443cB46e4C443cB4444C443cB4444C4eccB",
  "=Asia/Novokuznetsk",
  "@20928 21600 25200 28800",
  ".aa1820c0B.b8bc060C1b2b1cD449cC4444D449cC4444D449cC44a4D4448C4440D4440C4440D4440C4440D4440C",
  "4440D4440C4440D4440C4440D46e0C8884B2a00C1a3cD4440C4440D4440C4440D4440C4440D4440C46e0D4ec0C",
  "39c0D4ec0C39c0D4ec0C39c0D5160C3720D5160C3720D5160C39c0D4ec0C39c0D4ec0C39c0D5160C3720D5160C",
  "3720D5160C3720D5160C39c0D4ec0C39c0D4ec0C8b24B3720C",
  "=Asia/Novosibirsk",
  "@19900 21600 25200 28800",
  ".a1db1924B.13c8c7fcC1b2b1cD449cC4444D449cC4444D449cC44a4D4448C4440D4440C4440D4440C4440D4440C",
  "4440D4440C4440D4440C4440D46e0C8884B2a00C1a3cD4440C4440D14f4C2f50B4440C4440B4440C4440B46e0C",
  "4ec0B39c0C4ec0B39c0C4ec0B39c0C5160B3720C5160B3720C5160B39c0C4ec0B39c0C4ec0B39c0C5160B3720C",
  "5160B3720C5160B3720C5160B39c0C4ec0B39c0C4ec0B39c0C5160B3720C1eadcBeee4C",
  "=Asia/Omsk",
  "@17610 18000 21600 25200",
  ".a1b340b6B.13f0ae7aC1b2b1cD449cC4444D449cC4444D449cC44a4D4448C4440D4440C4440D4440C4440D4440C",
  "4440D4440C4440D4440C4440D46e0C8884B2a00C1a3cD4440C4440D4440C4440D4440C4440D4440C46e0D4ec0C",
  "39c0D4ec0C39c0D4ec0C39c0D5160C3720D5160C3720D5160C39c0D4ec0C39c0D4ec0C39c0D5160C3720D5160C",
  "3720D5160C3720D5160C39c0D4ec0C39c0D4ec0C39c0D5160C3720D1eadcC",
  "=Asia/Oral",
  "@12324 10800 18000 21600 14400",
  ".aa1993dcB.b8a7774C1b2b18Dcd7cC4444D449cC44a4D4448C4440D4440C4440D4440C4440D4440C4440D4440C",
  "8884E4440C46e0E4440C4440E2a00C5e80E4440C4440E4440C4440E4440C4440E46e0C4ec0E39c0C4ec0E39c0C",
  "4ec0E39c0C5160E3720C5160E3720C5160E39c0C4ec0E39c0C4ec0E39c0C",
  "=Asia/Pontianak",
  "@26240 27000 32400 28800 25200",
  ".ba16df00B.1162c508C1f3daB164a6D111beB75062Dcd73eE",
  "=Asia/Pyongyang",
  "@30180 30600 32400",
  ".8bd7f19cB.70e255cC37709eB174c0C",
  "=Asia/Qatar Asia/Bahrain",
  "@12368 14400 10800",
  ".a1f29d30B.6297f590C",
  "=Asia/Qostanay",
  "@15268 14400 18000 21600",
  ".aa19885cB.b8a74e4C1b2b1cDcd7cC4444D449cC44a4D4448C4440D4440C4440D4440C4440D4440C4440D4440C",
  "4440D4440C4440D46e0C8884B2a00C1a3cD4440C4440D4440C4440D4440C4440D4440C46e0D4ec0C39c0D4ec0C",
  "39c0D4ec0C39c0D5160C3720D5160C3720D5160C39c0D4ec0C39c0D4ec0C39c0Daa934C",
  "=Asia/Qyzylorda",
  "@15712 14400 18000 21600",
  ".aa1986a0B.b8a76a0C1b2b1cDcd7cC4444D449cC44a4D4448C4440D4440C4440D4440C4440D4440C4440D4440C",
  "4440D4440C4440D46e0Cb280D5e80C4440D4440C4440D4440C4440D4440C46e0D4ec0C39c0D4ec0C39c0D4ec0C",
  "39c0D5160C3720D5160C3720D5160C39c0D4ec0C39c0D4ec0C39c0D7e1d4C",
  "=Asia/Riyadh Antarctica/Syowa Asia/Aden Asia/Kuwait",
  "@11212 10800",
  ".d51b36b4B",
  "=Asia/Sakhalin",
  "@34248 32400 39600 43200 36000",
  ".86f0cdb8B.4b3fe538C130c18D449cC4444D449cC4444D449cC44a4D4448C4440D4440C4440D4440C4440D4440C",
  "4440D4440C4440D4440C4440D46e0C8884E2a00C1a3cD4440C4440D4440C4440D4440C4440D4440C46e0D4ec0C",
  "8884E39c0C4ec0E39c0C5160E3720C5160E3720C5160E39c0C4ec0E39c0C4ec0E39c0C5160E3720C5160E3720C",
  "5160E3720C5160E39c0C4ec0E39c0C4ec0E39c0C5160E3720C1eadcEc244C",
  "=Asia/Samarkand",
  "@16073 14400 18000 21600",
  ".aa198537B.b8a7809C1b2b1cDcd7cC4444D449cC44a4D4448C4440D4440C4440D4440C4440D4440C4440D4440C",
  "4440D4440C4440D46e0C4440D4440C",
  "=Asia/Seoul ROK",
  "@30472 30600 32400 36000 34200",
  ".8bd7f078B.70e2680C137bdeD26fcC4bc4D3c5cC4bc4D3cbcC5944D2f3cC15a84B99c2E2f9cB5f44E31dcB5164E",
  "347cB5404E347cB5404E347cB5404E347cB7a44Cdc686D39c0C4ec0D39c0C",
  "=Asia/Shanghai Asia/Chongqing Asia/Chungking Asia/Harbin PRC",
  "@29143 28800 32400",
  ".7e364329B.22615f57C401cBb0ee4C323cB3964C56fcB21c4C1eb3cB5fa4C341cB4984C4afcB4444C395cB4f84C",
  "a1cB13c2ccC31dcB4ec4C39bcB5164C371cB5164C39bcB4ec4C39bcB4ec4C39bcB",
  "=Asia/Singapore Asia/Kuala_Lumpur Singapore",
  "@24925 25200 26400 27000 32400 28800",
  ".868385a3B.33e3c8edC.104c96d0D.dd79a8E1e8faD136c84F",
  "=Asia/Srednekolymsk",
  "@36892 36000 39600 43200",
  ".aa1933e4B.b8a74fcC1b2b1cD449cC4444D449cC4444D449cC44a4D4448C4440D4440C4440D4440C4440D4440C",
  "4440D4440C4440D4440C4440D46e0C8884B2a00C1a3cD4440C4440D4440C4440D4440C4440D4440C46e0D4ec0C",
  "39c0D4ec0C39c0D4ec0C39c0D5160C3720D5160C3720D5160C39c0D4ec0C39c0D4ec0C39c0D5160C3720D5160C",
  "3720D5160C3720D5160C39c0D4ec0C39c0D4ec0C39c0D5160C3720D1eadcC",
  "=Asia/Taipei ROC",
  "@29160 28800 32400",
  ".74cef018B.4e865968C44400B5880C341cB4984C4afcB4444C395cB4f84C395cB4f84C395cB4f84C395cB3904C",
  "5bdcB38a4C503cB38a4C503cB38a4C449cB44a4C449cB4444C449cB4444C449cB4444C449cB5b84C2dbcB5b24C",
  "2dbcB6afe4C449cB4444C449cB20164C227cB",
  "=Asia/Tashkent",
  "@16631 18000 21600 25200",
  ".aa198309B.b8a6c27C1b2b1cD449cC4444D449cC4444D449cC44a4D4448C4440D4440C4440D4440C4440D4440C",
  "4440D4440C4440D4440C4440D46e0C8884B",
  "=Asia/Tbilisi",
  "@10751 10800 14400 18000",
  ".aa199a01B.3dc0724fCce2dcD449cC4444D449cC4444D449cC44a4D4448C4440D4440C4440D4440C4440D4440C",
  "4440D4440C4440D4440C4440D46e0C8884B4438C443cB4444C443cB4444C887cD443cC46e4Dd73cC39c4D4ebcC",
  "39c4D515cC3724D515cC3724D515cC39c4D4ebcC39c4D4ebcC39c4D221cC2f50B3720C",
  "=Asia/Tehran Iran",
  "@12344 12600 16200 14400 18000",
  ".bf00cc48B.4e9377f0C4fe0D3a22E31e0D24c0B49e2C2b1cB4504C45bcB5acc4C353cB4444C44fcB43e4C44fcB",
  "43e4C44fcB43e4C44fcB43e4C44fcB4444C44fcB43e4C44fcB43e4C44fcB43e4C44fcB4444C44fcB43e4C44fcB",
  "43e4C44fcB43e4C44fcB4444C44fcB155a4C44fcB4444C44fcB43e4C44fcB43e4C44fcB43e4C44fcB4444C44fcB",
  "43e4C44fcB43e4C44fcB43e4C44fcB4444C44fcB43e4C44fcB43e4C44fcB43e4C44fcB4444C44fcB43e4C44fcB",
  "=Asia/Thimphu Asia/Thimbu",
  "@21516 19800 21600",
  ".d5e61574B.4b7b3834C",
  "=Asia/Tokyo Japan",
  "@33539 32400 36000",
  ".65c2a470B204780C31e0B4c20C3c60B5940C2f40B5940C2f40B",
  "=Asia/Tomsk",
  "@20391 21600 25200 28800",
  ".a1e54ed9B.13be9247C1b2b1cD449cC4444D449cC4444D449cC44a4D4448C4440D4440C4440D4440C4440D4440C",
  "4440D4440C4440D4440C4440D46e0C8884B2a00C1a3cD4440C4440D4440C4440D4440C4440D4440C46e0D4ec0C",
  "39c0D4ec0C39c0D4ec0C39c0D5160C3720D5160C3720D5160C39c0Dba0C4324B39c0C4ec0B39c0C5160B3720C5160B",
  "3720C5160B3720C5160B39c0C4ec0B39c0C4ec0B39c0C5160B3720C1eadcBd9e4C",
  "=Asia/Ulaanbaatar Asia/Choibalsan Asia/Ulan_Bator",
  "@25652 25200 28800 32400",
  ".86d3ee4cB.8837ee44C2ce7cD449cC44a4D443cC4444D443cC4444D443cC4444D443cC4444D443cC4444D443cC",
  "4444D46dcC4444D443cC4444D443cC4444D443cC4444D443cC4444D443cC46e4D443cC4444D443cC4444D443cC",
  "1620cD39bcC4444D443cC4444D443cC4444D443cC4444D443cC4444D46dcC48ae4D4434C444cD4434C",
  "=Asia/Urumqi Asia/Kashgar",
  "@21020 21600",
  ".b0feba64B",
  "=Asia/Ust-Nera",
  "@34374 28800 32400 43200 39600 36000",
  ".a1dbddbaB.13c7e746C1b2b1cD4494E4444D449cE4444D449cE44a4D4448E4440D4440E4440D4440E4440D4440E",
  "4440D4440E4440D4440E4440D46e0E8884F2a00E1a3cD4440E4440D4440E4440D4440E4440D4440E46e0D4ec0E",
  "39c0D4ec0E39c0D4ec0E39c0D5160E3720D5160E3720D5160E39c0D4ec0E39c0D4ec0E39c0D5160E3720D5160E",
  "3720D5160E3720D5160E39c0D4ec0E39c0D4ec0E39c0D5160E3720D3fb4E1ab2cF",
  "=Asia/Vladivostok",
  "@31651 32400 36000 39600",
  ".a759475dB.e4a6f93C1b2b1cD449cC4444D449cC4444D449cC44a4D4448C4440D4440C4440D4440C4440D4440C",
  "4440D4440C4440D4440C4440D46e0C8884B2a00C1a3cD4440C4440D4440C4440D4440C4440D4440C46e0D4ec0C",
  "39c0D4ec0C39c0D4ec0C39c0D5160C3720D5160C3720D5160C39c0D4ec0C39c0D4ec0C39c0D5160C3720D5160C",
  "3720D5160C3720D5160C39c0D4ec0C39c0D4ec0C39c0D5160C3720D1eadcC",
  "=Asia/Yakutsk",
  "@31138 28800 32400 36000",
  ".a1dbea5eB.13c7daa2C1b2b1cD449cC4444D449cC4444D449cC44a4D4448C4440D4440C4440D4440C4440D4440C",
  "4440D4440C4440D4440C4440D46e0C8884B2a00C1a3cD4440C4440D4440C4440D4440C4440D4440C46e0D4ec0C",
  "39c0D4ec0C39c0D4ec0C39c0D5160C3720D5160C3720D5160C39c0D4ec0C39c0D4ec0C39c0D5160C3720D5160C",
  "3720D5160C3720D5160C39c0D4ec0C39c0D4ec0C39c0D5160C3720D1eadcC",
  "=Asia/Yangon Asia/Rangoon Indian/Cocos",
  "@23087 23400 32400",
  ".a1f27351B.2a0088c7C19bb6B",
  "=Asia/Yekaterinburg",
  "@14553 13505 14400 18000 21600",
  ".9b5f0927B.5b3a8d8C.14914b41D1b2b1cE449cD4444E449cD4444E449cD44a4E4448D4440E4440D4440E4440D",
  "4440E4440D4440E4440D4440E4440D4440E46e0D8884C2a00D1a3cE4440D4440E4440D4440E4440D4440E4440D",
  "46e0E4ec0D39c0E4ec0D39c0E4ec0D39c0E5160D3720E5160D3720E5160D39c0E4ec0D39c0E4ec0D39c0E5160D",
  "3720E5160D3720E5160D3720E5160D39c0E4ec0D39c0E4ec0D39c0E5160D3720E1eadcD",
  "=Asia/Yerevan",
  "@10680 10800 14400 18000",
  ".aa199a48B.3dc07208Cce2dcD449cC4444D449cC4444D449cC44a4D4448C4440D4440C4440D4440C4440D4440C",
  "4440D4440C4440D4440C4440D46e0C8884B4440C4440B4440C4440B4440C4440B4440C1139cD4ec0C39c0D4ec0C",
  "39c0D5160C3720D5160C3720D5160C39c0D4ec0C39c0D4ec0C39c0D5160C3720D5160C3720D5160C3720D5160C",
  "39c0D4ec0C39c0D4ec0C39c0D5160C3720D5160C",
  "=Atlantic/Azores",
  "@-6160 -6872 -7200 -3600 0 3600",
  "~D E 3.5.0/0 10.5.0/3600",
  ".5e3d1b90B.34a98f10C2633cD3304C2d00D557cC3364D557cC3364D557cC33c4D557cC3364D557cC15720D4020C",
  "d200D3f00C46e0D41a0C4980D41a0C4980D3f00Cd200D3f00C4440D4440Ccf60D4440C41a0D46e0C4980D3f00C",
  "4440D4440C41a0D46e0C4980D5160C24c0D54c0C4380D44a0C3c00DfbcE2a00D1a44C3480Dd1cE31e0D17a4C31e0D",
  "fbcE2f40D17a4C31e0DfbcE2f40D17a4C3c60D4440C444cD4440C4440D4440C4440D4440C4440D4440C4440D46e0C",
  "4440D4440C4440D4440C4440D4440C4440D4440C4440D46e0C4440D4440C4440D4440C4440D4440C4440D4440C",
  "4440D4440C4440D46e0C4440D4440C4440D4440C4440D4440C4440D88d34E4440D4440E4440D4440E46e0D4440E",
  "4440D4440E4440D4440E4440D4440E4440D4440E4440D4440E46e0D4440E4440D4440E4440D2224E221cF1e60E",
  "25e0D4440E4440D4440E4440D46e0E",
  "=Atlantic/Bermuda",
  "@-15558 -11958 -14400 -10800",
  "~C D 3.2.0/7200 11.1.0/7200",
  ".9cccae46B42bcA4924B3a1cA60aecC.169f88faD68fcC39c4D53fcC31e4D593cC2f44D593cCd204D2c9cC5e84D",
  "275cC6124D275cC63c4D24bcC63c4D24bcC63c4D275cC1fd44D39bcC95ca4D443cC4444D443cC4444D46dcC41a4D",
  "46dcC4444D443cC4444D443cC4444D443cC4444D443cC4444D46dcC41a4D46dcC4444D443cC4444D443cC4444D",
  "443cC3c64D4c1cC3c64D4ebcC39c4D4ebcC39c4D4ebcC3c64D4c1cC3c64D4c1cC3c64D4ebcC39c4D4ebcC39c4D",
  "4ebcC3c64D4c1cC3c64D4c1cC3c64D4c1cC3c64D4ebcC39c4D4ebcC39c4D4ebcC3c64D4c1cC3c64D4c1cC3c64D",
  "4ebcC39c4D4ebcC39c4D4ebcC31e4D",
  "=Atlantic/Canary",
  "@-3696 -3600 0 3600",
  "~C D 3.5.0/3600 10.5.0/7200",
  ".a6045cf0B.2e3d9a30C11eeb8D41a4C4440D4440C4440D4440C4440D4440C4440D46e0C4440D4440C4440D4440C",
  "4440D4440C4440D4440C4440D4440C4440D46e0C4440D4440C4440D4440C4440D4440C4440D4440C4440D4440C",
  "46e0D",
  "=Atlantic/Cape_Verde",
  "@-5644 -7200 -3600",
  ".92e6aaa0B106860C1ab7cB101c4cC",
  "=Atlantic/Faroe Atlantic/Faeroe",
  "@-1624 0 3600",
  "~B C 3.5.0/3600 10.5.0/7200",
  ".8b6da458B.89b64738C4440B4440C4440B4440C4440B4440C46e0B4440C4440B4440C4440B4440C4440B4440C",
  "4440B4440C4440B4440C46e0B4440C4440B4440C4440B4440C4440B4440C4440B4440C4440B46e0C",
  "=Atlantic/Madeira",
  "@-4056 -3600 0 3600",
  "~C D 3.5.0/3600 10.5.0/7200",
  ".92e69c90B2633cC3304B2d00C557cB3364C557cB3364C557cB33c4C557cB3364C557cB15720C4020Bd200C3f00B",
  "46e0C41a0B4980C41a0B4980C3f00Bd200C3f00B4440C4440Bcf60C4440B41a0C46e0B4980C3f00B4440C4440B",
  "41a0C46e0B4980C5160B24c0C54c0B4380C44a0B3c00CfbcD2a00C1a44B3480Cd1cD31e0C17a4B31e0CfbcD2f40C",
  "17a4B31e0CfbcD2f40C17a4B3c60C4440B444cC4440B4440C4440B4440C4440B4440C4440B4440C46e0B4440C4440B",
  "4440C4440B4440C4440B4440C4440B4440C46e0B4440C4440B4440C4440B4440C4440B4440C4440B4440C4440B",
  "4440C46e0B4440C4440B4440C4440B4440C4440B4440C88fd4D41a0C4440D4440C4440D46e0C4440D4440C4440D",
  "4444C4440D4440C4440D4440C4440D4440C4440D46e0C4440D4440C4440D4440C4440D4440C4440D4440C4440D",
  "4440C46e0D",
  "=Atlantic/South_Georgia",
  "@-8768 -7200",
  ".6986fdc0B",
  "=Atlantic/Stanley",
  "@-13884 -14400 -10800 -7200",
  ".93445f3cB.300afb84C419cB46e4C419cB4984C419cB46e4C419cB46e4C419cB46e4C23fcB1593c4C371cD515cC",
  "3484D53fcC85e4B3724C515cB3724C515cB3724C515cB3724C53fcB3484C53fcB3724C515cB3724C515cB3724C",
  "515cB3724C515cB3724C53fcB3724C515cB3724C515cB3724C515cB3724C515cB3724C5164B3484C569cB31e4C",
  "569cB3484C53fcB3484C53fcB3484C53fcB3484C53fcB3484C569cB3484C53fcB3484C53fcB3484C",
  "=Australia/Adelaide Australia/South",
  "@33260 32400 34200 37800",
  "~C D 10.1.0/7200 4.1.0/10800",
  ".73168b14B.7fb785cC97446D1f20Cd4100D20a0C4440D4440C46e0D41a0Cec400D2ca0C5be0D2f40C5940D2f40C",
  "5940D2f40C5940D31e0C5940D2f40C5940D2f40C5940D2f40C5940D2f40C5940D2f40C5940D31e0C5940D2f40C",
  "5940D2f40C5940D2f40C5940D3480C5160D3720C5400D3720C5400D3480C5400D3480C5400D2f40C5940D3720C",
  "5160D31e0C5940D3480C5400D3720C5160D39c0C4ec0D39c0C4ec0D39c0C4ec0D39c0C5160D3720C5160D3720C",
  "5160D39c0C4ec0D39c0C4ec0D39c0C5160D3720C5160D39c0C4ec0D3720C5160D3c60C",
  "=Australia/Brisbane Australia/Queensland",
  "@36728 36000 39600",
  ".72ed9f08B.29612378C1f20Bd4100C20a0B4440C4440B46e0C41a0Bec400C2ca0B97440C2f40B5940C2f40B5940C",
  "2f40B",
  "=Australia/Broken_Hill Australia/Yancowinna",
  "@33948 36000 32400 34200 37800",
  "~D E 10.1.0/7200 4.1.0/10800",
  ".73168864B.2ee1d7cC16fe4D97446E1f20Dd4100E20a0D4440E4440D46e0E41a0Dec400E2ca0D5be0E2f40D5940E",
  "2f40D5940E2f40D5940E31e0D5940E2f40D5940E2f40D5940E2f40D5940E2f40D5940E2f40D5940E3c60D4ec0E",
  "2f40D5940E2f40D5940E2f40D5940E3480D5160E3720D5400E3720D5400E3480D5400E2f40D5940E2f40D5940E",
  "2f40D5940E31e0D5940E2f40D5940E2f40D5940E39c0D4ec0E39c0D4ec0E39c0D4ec0E39c0D5160E3720D5160E",
  "3720D5160E39c0D4ec0E39c0D4ec0E39c0D5160E3720D5160E39c0D4ec0E3720D5160E3c60D",
  "=Australia/Darwin Australia/North",
  "@31400 32400 34200 37800",
  ".73169258B.7fb7118C97446D1f20Cd4100D20a0C4440D4440C46e0D41a0C",
  "=Australia/Eucla",
  "@30928 31500 35100",
  ".74a60ab0B.27a8c964C1f20Bd4100C20a0B4440C4440B10e600C2f40B4a280C2f40B41f40C2760B7e540C2a00B",
  "5160C39c0B4ec0C39c0B",
  "=Australia/Hobart Australia/Currie Australia/Tasmania",
  "@35356 36000 39600",
  "~B C 10.1.0/7200 4.1.0/10800",
  ".742e00e4B.27a7779cC41a0B5160C2f40B5940C2f40Bc37e0C20a0B4440C4440B46e0C41a0Bc94e0C4440B4ec0C",
  "31e0B56a0C31e0B56a0C3480B56a0C2ca0B5be0C2f40B5940C2f40B5940C2f40B5940C31e0B5940C2f40B5940C",
  "2f40B5940C2f40B5940C2f40B5940C2f40B5940C39c0B5160C3720B5160C2f40B5940C2f40B5940C2f40B56a0C",
  "3720B5400C3720B5400C3480B5400C3480B5400C39c0B46e0C41a0B46e0C41a0B46e0C41a0B46e0C41a0B46e0C",
  "4440B46e0C41a0B46e0C41a0B46e0C41a0B46e0C41a0B39c0C4ec0B4980C41a0B46e0C41a0B46e0C41a0B46e0C",
  "41a0B46e0C4440B4440C41a0B4980C",
  "=Australia/Lindeman",
  "@35756 36000 39600",
  ".72eda2d4B.29611facC1f20Bd4100C20a0B4440C4440B46e0C41a0Bec400C2ca0B97440C2f40B5940C2f40B5940C",
  "2f40B5940C31e0B5940C2f40B",
  "=Australia/Lord_Howe Australia/LHI",
  "@38180 36000 37800 41400 39600",
  "~C E 10.1.0/7200 4.1.0/7200",
  ".731677dcB.a1e7ef04C5946D31dcC5944D2f3cC5944D2f3cC5944D2f3cC5944E347eC5162E371eC5402E371eC",
  "5402E347eC5402E2f3eC5942E2f3eC5942E2f3eC5942E31deC5942E2f3eC5942E2f3eC5942E39beC4ec2E39beC",
  "4ec2E39beC4ec2E39beC5162E371eC39c2E4ebeC5162E39beC4ec2E39beC4ec2E39beC5162E371eC5162E39beC",
  "4ec2E371eC5162E3c5eC",
  "=Australia/Melbourne Australia/Victoria",
  "@34792 36000 39600",
  "~B C 10.1.0/7200 4.1.0/10800",
  ".73168518B.29383d68C1f20Bd4100C20a0B4440C4440B46e0C41a0Bec400C2ca0B5be0C2f40B5940C2f40B5940C",
  "2f40B5940C31e0B5940C2f40B5940C2f40B5940C2f40B5940C2f40B5940C2f40B5940C31e0B5940C2f40B5940C",
  "2f40B5940C2f40B5940C3480B5160C3720B5160C39c0B5400C3480B5400C3480B5400C2f40B5940C2f40B5940C",
  "31e0B5940C2f40B5940C3720B5160C39c0B4ec0C39c0B4ec0C39c0B4ec0C39c0B5160C3720B39c0C4ec0B5160C",
  "39c0B4ec0C39c0B4ec0C39c0B5160C3720B5160C39c0B4ec0C3720B5160C3c60B",
  "=Australia/Perth Australia/West",
  "@27804 28800 32400",
  ".74a616e4B.27a8c7bcC1f20Bd4100C20a0B4440C4440B10e600C2f40B4a280C2f40B41f40C2760B7e540C2a00B",
  "5160C39c0B4ec0C39c0B",
  "=Australia/Sydney Australia/ACT Australia/Canberra Australia/NSW",
  "@36292 36000 39600",
  "~B C 10.1.0/7200 4.1.0/10800",
  ".73167f3cB.29384344C1f20Bd4100C20a0B4440C4440B46e0C41a0Bec400C2ca0B5be0C2f40B5940C2f40B5940C",
  "2f40B5940C31e0B5940C2f40B5940C2f40B5940C2f40B5940C2f40B5940C2f40B5940C3c60B4ec0C2f40B5940C",
  "2f40B5940C2f40B5940C3480B5160C3720B5400C3720B5400C3480B5400C2f40B5940C2f40B5940C2f40B5940C",
  "31e0B5940C2f40B5940C2f40B5940C39c0B4ec0C39c0B4ec0C39c0B4ec0C39c0B5160C3720B39c0C4ec0B5160C",
  "39c0B4ec0C39c0B4ec0C39c0B5160C3720B5160C39c0B4ec0C3720B5160C3c60B",
  "=Etc/GMT Etc/GMT+0 Etc/GMT-0 Etc/GMT0 Etc/Greenwich GMT GMT+0 GMT-0 GMT0 Greenwich",
  "@0",
  "=Etc/GMT+1",
  "@-3600",
  "=Etc/GMT+10",
  "@-36000",
  "=Etc/GMT+11",
  "@-39600",
  "=Etc/GMT+12",
  "@-43200",
  "=Etc/GMT+2",
  "@-7200",
  "=Etc/GMT+3",
  "@-10800",
  "=Etc/GMT+4",
  "@-14400",
  "=Etc/GMT+5",
  "@-18000",
  "=Etc/GMT+6",
  "@-21600",
  "=Etc/GMT+7",
  "@-25200",
  "=Etc/GMT+8",
  "@-28800",
  "=Etc/GMT+9",
  "@-32400",
  "=Etc/GMT-1",
  "@3600",
  "=Etc/GMT-10",
  "@36000",
  "=Etc/GMT-11",
  "@39600",
  "=Etc/GMT-12",
  "@43200",
  "=Etc/GMT-13",
  "@46800",
  "=Etc/GMT-14",
  "@50400",
  "=Etc/GMT-2",
  "@7200",
  "=Etc/GMT-3",
  "@10800",
  "=Etc/GMT-4",
  "@14400",
  "=Etc/GMT-5",
  "@18000",
  "=Etc/GMT-6",
  "@21600",
  "=Etc/GMT-7",
  "@25200",
  "=Etc/GMT-8",
  "@28800",
  "=Etc/GMT-9",
  "@32400",
  "=Etc/UTC Etc/UCT Etc/Universal Etc/Zulu UCT UTC Universal Zulu",
  "@0",
  "=Europe/Andorra",
  "@364 0 3600 7200",
  "~C D 3.5.0/7200 10.5.0/10800",
  ".7e36b394B.560b276cC149944D4440C4440D4440C4440D4440C4440D4440C4440D4440C4440D46e0C4440D4440C",
  "4440D4440C4440D4440C4440D4440C4440D4440C46e0D",
  "=Europe/Astrakhan",
  "@11532 10800 14400 18000",
  ".aa184574B.b8bc5dcC1b2b1cD449cC4444D449cC4444D449cC44a4D4448C4440D4440C4440D4440C4440D4440C",
  "4440D4440C8884B4440C46e0B4440Cccc0B4440C4440B4440C4440B4440C4440B46e0C4ec0B39c0C4ec0B39c0C",
  "4ec0B39c0C5160B3720C5160B3720C5160B39c0C4ec0B39c0C4ec0B39c0C5160B3720C5160B3720C5160B3720C",
  "5160B39c0C4ec0B39c0C4ec0B39c0C5160B3720C1eadcBc244C",
  "=Europe/Athens EET",
  "@5692 7200 10800 3600",
  "~B C 3.5.0/10800 10.5.0/14400",
  ".9b802180B.1dfcc860C14fcB49984C89cBceb0D3778B467cD44a4B468bcC2e7cBc0184C5580B3368C4440B41a0C",
  "4200B4680C41a4B46f8C43c0B455cC437cB4450C4440B4440C4440B4440C4440B4440C46e0B4440C4440B4440C",
  "4440B4440C4440B4440C4440B4440C4440B4440C46e0B4440C4440B4440C4440B4440C4440B4440C4440B4440C",
  "4440B46e0C",
  "=Europe/Belgrade Europe/Ljubljana Europe/Podgorica Europe/Sarajevo Europe/Skopje",
  "=Europe/Zagreb",
  "@4920 3600 7200",
  "~B C 3.5.0/7200 10.5.0/10800",
  ".5e3cf048B.6bc54598Cd2ccB3720C46e0B4440C4440B51c0C3120B1413c0C4440B4440C46e0B4440C4440B4440C",
  "4440B4440C4440B4440C4440B4440C4440B4440C46e0B4440C4440B4440C4440B4440C4440B4440C4440B4440C",
  "4440B46e0C",
  "=Europe/Berlin Arctic/Longyearbyen Atlantic/Jan_Mayen Europe/Copenhagen Europe/Oslo",
  "=Europe/Stockholm",
  "@3208 3600 7200 10800",
  "~B C 3.5.0/7200 10.5.0/10800",
  ".6fa261f8B.2b69b568C3964B49e8C39c0B4ec0C39c0Bb8680C16260B3720C46e0B4440C4440B4440C137cD2e20C",
  "14a4B3720C4200B43e4Cd1cD125cC24c4B4980C3f00B46e0C41a0B105300C41a0B4440C4440B4440C4440B4440C",
  "4440B4440C46e0B4440C4440B4440C4440B4440C4440B4440C4440B4440C4440B4440C46e0B4440C4440B4440C",
  "4440B4440C4440B4440C4440B4440C4440B46e0C",
  "=Europe/Brussels CET Europe/Amsterdam Europe/Luxembourg MET",
  "@1050 0 3600 7200",
  "~C D 3.5.0/7200 10.5.0/10800",
  ".6de8c800Bc0c60Cca7cD3960C49e8D39c0C4ec0D39c0C1528B2970C5160B31e0C5e80B3540C5460B38a0C4980B",
  "4980C3f00B41a0C46e0B4440C4440B4980C3f00B46e0C41a0B4980C41acB4980C3f00B46e0C41a0B4980C3f00B",
  "4440C4440B41a0C4980B4440C4440B41a0C46e0B4980C3f00B4440C4440B41a0C46e0B4980C5160B24c0C1fe0D",
  "14ffcC3720D46e0C4440D3ea0C49e0D3ea0C5be0D34e0C105000D41a0C46e0D4440C4440D4440C46e0D41a0C4440D",
  "4440C4440D4440C4440D4440C4440D46e0C4440D4440C4440D4440C4440D4440C4440D4440C4440D4440C4440D",
  "46e0C4440D4440C4440D4440C4440D4440C4440D4440C4440D4440C46e0D",
  "=Europe/Bucharest",
  "@6264 7200 10800",
  "~B C 3.5.0/10800 10.5.0/14400",
  ".b7b0d208B.18e2158C3240B4440C4440B46e0C4440B4440C4440B4440C4440B4440C4440B4440C4440B4440C4440B",
  "153720C2f3cB46e0C41a4B4448C4440B4440C4440B4440C4440B4440C46e0B4440C4440B4440C4440B4440C4440B",
  "4440C4440B4440C4440B4440C46e0B4438C4440B4440C4440B4440C4440B4440C443cB4444C443cB46e4C4ebcB",
  "39d0C",
  "=Europe/Budapest",
  "@4580 3600 7200",
  "~B C 3.5.0/7200 10.5.0/10800",
  ".6b17919cB.2ff485c4C3964B49e8C39c0B4ec0C39c0B4f20C3960B4c20C3f00Bafe54Cd6ecB3720C46e0B4440C",
  "4440B4f74C44a4B3848C473cB43e4C4440B4440C4440B46e0C41a0B27b38C31dcB56acC31e0B5be0C2ca0B5be0C",
  "2ca0Bc0c58C41a0B4440C4440B4440C4440B4440C4440B4448C46e0B4440C4440B4440C4440B4440C4440B4440C",
  "4440B4440C4440B4440C46e0B4440C4440B4440C4440B4440C4440B4440C4440B4440C4440B46e0C",
  "=Europe/Chisinau Europe/Tiraspol",
  "@6920 6900 6264 7200 10800 3600 14400",
  "~D E 3.5.0/10800 10.5.0/14400",
  ".56b6c8f8B.47b4d614C.194532fcD.18e2158E3240D4440E4440D46e0E4440D4440E4440D4440E4440D4440E4440D",
  "4440E4440D4440E4440D77a0E7dfcDb170F3720D46e0F4440D3594E13955cG449cE4444G449cE4444G449cE44a4G",
  "4448E4440G4440E4440G4440E4440G4440E4440G4440E4440G4440E4440GfbcE3728D4440E4440D4438E443cD4444E",
  "443cD4444E443cD4444E443cD46e4E4ebcD39ccE4ec0D39c0E4ec0D39c0E5160D3720E5160D3720E5160D39c0E",
  "4ec0D39c0E4ec0D39c0E5160D3720E5160D3720E5160D3720E5160D39c0E4ec0D39c0E4ec0D39c0E5160D3720E",
  "5160D3720E5160D39c0E4ec0D39c0E4ec0D39c0E4ec0D39c0E5160D3720E5160D3720E5160D39c0E4ec0D39c0E",
  "4ec0D39c0E5160D3724E",
  "=Europe/Dublin Eire",
  "@-1521 2079 0 3600",
  "~C D 3.5.0/3600 10.5.0/7200",
  ".9b26b391B31e0C.f9258fD3cc0C4680D4740C43e0D44a0C43e0D4f20C3c00D44a0C4140D4980C4980D3720C4ec0D",
  "3c60C4ec0D3f00C4980D3f00C46e0D41a0C4c20D3f00C4980D3f00C46e0D41a0C4980D3f00C4980D3f00C46e0D",
  "4440C4980D3f00C46e0D41a0C4980D3f00C4980D3f00C46e0D41a0C4980D5160C24c0D389a0C3c60D56a0C3f00D",
  "4980C39c0D4ec0C3f00D46e0C41a0D46e0C4440D46e0C41a0D3f00C46e0D41a0C4980D3f00C4c20D3f00C46e0D",
  "41a0C4980D3f00C4980D3f00C46e0D41a0C41a0D5160C3720D5160C39c0D4ec0C3720D5160C3720D5160C3720D",
  "5160C3720D5400C2a00D1faa0C3480D5400C3480D5400C3480D5400C3480D5400C3720D5160C3720D5160C3720D",
  "5400C3480D5400C3480D5400C39bcD4ec0C39c0D4ec0C39c0D4ec0C39c0D5160C39c0D4ec0C39c0D4ec0C39c0D",
  "4ec0C39c0D4ec0C39c0D5160C3720D5160C39c0D4ec0C39c0D4ec0C39c0D4ec0C39c0D4ec0C39c0D4ec0C3c60D",
  "=Europe/Gibraltar",
  "@-1284 0 3600 7200",
  "~C D 3.5.0/7200 10.5.0/10800",
  ".57d10a04B.4355a39cC31e0B46e0C3cc0B4680C4740B43e0C44a0B43e0C4f20B3c00C44a0B4140C4980B4980C",
  "3720B4ec0C3c60B4ec0C3f00B4980C3f00B46e0C41a0B4c20C3f00B4980C3f00B46e0C41a0B4980C3f00B4980C",
  "3f00B46e0C4440B4980C3f00B46e0C41a0B4980C3f00B4980C3f00B46e0C41a0B4980C5160B24c0Ca2bcD24c0C",
  "5940D2f40C5940D31e0C56a0D3f00C49e0D2700C1f84B46e0C41a0B3c60Ca7cD2ca0C1f84B31e0C56a0B39c0C4ec0B",
  "3f00C46e0B41a0C46e0B4440C46e0B41a0C3f00B46e0C41a0B4980C3f00B4c20C3f00B46e0Cd59bcD4440C4440D",
  "4440C4440D46e0C4440D4440C4440D4440C4440D4440C4440D4440C4440D4440C4440D46e0C4440D4440C4440D",
  "4440C4440D4440C4440D4440C4440D4440C46e0D",
  "=Europe/Helsinki Europe/Mariehamn",
  "@5989 7200 10800",
  "~B C 3.5.0/10800 10.5.0/14400",
  ".a4736f1bB.275ae245C4500B149708C4440B4440C4440B4444C4440B4440C46e0B4440C4440B4440C4440B4440C",
  "4440B4440C4440B4440C4440B4440C46e0B4440C4440B4440C4440B4440C4440B4440C4440B4440C4440B46e0C",
  "=Europe/Istanbul Asia/Istanbul Turkey",
  "@6952 7016 7200 10800 14400",
  ".56b6c8d8B.39d52cc0C.a8021c8D395cC1ddc4D4f1cC3c04D449cC4144D497cCdaa4D34dcC4f84D395cC7e424D",
  "245cC1504D6e3cC4804D1e23cC5884D2dbcC4b64D3efcC4984D3efcC46e4D419cC4984D419cC4984D3efcC5c344D",
  "b0fcC4a44D341cC4a3a8D39c0C3724D515cC3424D545cC3484D53fcC39c4D497cC3f04D2d9bcE179cD9484C3fc0D",
  "3c60C44a0D4440C4440D4440C4440D4440C4440D4440C4440D46e0C4440D4440C4440D4440C4440D4440C41a0D",
  "46e0C4440D4440C46e0D4ec0C39c0D4ec0C39c0D4ec0C39c0D5160C3720D5160C3720D5160C39c0D4ec0C39c0D",
  "4ec0C39c0D5160C3720D5160C3720D5160C3728D5160C39c0D4ec0C39c0D4ec0C39c0D5160C3780D5100C3720D",
  "5160C39c0D4ec0C3a20D4e60C39c0D5400C3480D",
  "=Europe/Kaliningrad",
  "@4920 3600 7200 10800 14400",
  ".6fa25b48B.2b69bc18C3964B49e8C39c0B4ec0C39c0Bb8680C16260B3720C46e0B4440C4440B4440Ca14D45bcC",
  "3ae4D12b7bcE449cD4444E449cD4444E449cD44a4E4448D4440E4440D4440E4440D4440E4440D4440E4440D8884C",
  "4440D46e0C4440D4440C4440D4440C4440D4440C4440D4440C4440D4440C46e0D4ec0C39c0D4ec0C39c0D4ec0C",
  "39c0D5160C3720D5160C3720D5160C39c0D4ec0C39c0D4ec0C39c0D5160C3720D5160C3720D5160C3720D5160C",
  "39c0D4ec0C39c0D4ec0C39c0D5160C3720D1eadcC",
  "=Europe/Kirov",
  "@11928 10800 14400 18000",
  ".a1003980B5def4C1b2b1cD449cC4444D449cC4444D449cC44a4D4448C4440D4440C4440D4440C4440D4440C4440D",
  "4440C8884B4440C46e0B4440Cccc0B4440C4440B4440C4440B4440C4440B46e0C4ec0B39c0C4ec0B39c0C4ec0B",
  "39c0C5160B3720C5160B3720C5160B39c0C4ec0B39c0C4ec0B39c0C5160B3720C5160B3720C5160B3720C5160B",
  "39c0C4ec0B39c0C4ec0B39c0C5160B3720C1eadcB",
  "=Europe/Kyiv Europe/Kiev Europe/Uzhgorod Europe/Zaporozhye",
  "@7324 7200 10800 3600 14400",
  "~B C 3.5.0/10800 10.5.0/14400",
  ".aa19a764B.b8a71fcC604dcB9910D3720B46e0Dc58C1402d8E449cC4444E449cC4444E449cC44a4E4448C4440E",
  "4440C4440E4440C4440E4440C4440E4440C4440E4440C4440E24bcCaaa8B4440C4440B4440C4440B4440C4440B",
  "4440C4440B46e0C4ec4B",
  "=Europe/Lisbon Portugal WET",
  "@-2205 0 3600 7200",
  "~B C 3.5.0/3600 10.5.0/7200",
  ".92e68e80B2633cC3304B2d00C557cB3364C557cB3364C557cB33c4C557cB3364C557cB15720C4020Bd200C3f00B",
  "46e0C41a0B4980C41a0B4980C3f00Bd200C3f00B4440C4440Bcf60C4440B41a0C46e0B4980C3f00B4440C4440B",
  "41a0C46e0B4980C5160B24c0C54c0B4380C44a0B3c00CfbcD2a00C1a44B3480Cd1cD31e0C17a4B31e0CfbcD2f40C",
  "17a4B31e0CfbcD2f40C17a4B3c60C4440B444cC4440B4440C4440B4440C4440B4440C4440B4440C46e0B4440C4440B",
  "4440C4440B4440C4440B4440C4440B4440C46e0B4440C4440B4440C4440B4440C4440B4440C4440B4440C4440B",
  "4440C46e0B4440C4440B4440C4440B4440C4440B4440C59bd8B4440C4440B46e4C4440B4440C4440B46e0C41a0B",
  "443cC4440B4440C4440B4440C4440B4440C46e0B4440C4440B4444C4440B4440C4440B4440C4440B4440C4440B",
  "4440C46e0B4440C4440B4440C8880D4440C4440D4440C4440D4440C95a0B",
  "=Europe/London Europe/Belfast Europe/Guernsey Europe/Isle_of_Man Europe/Jersey GB GB-Eire",
  "@-75 0 3600 7200",
  "~B C 3.5.0/3600 10.5.0/7200",
  ".1a5d09cbB.80c9a3d5C31e0B46e0C3cc0B4680C4740B43e0C44a0B43e0C4f20B3c00C44a0B4140C4980B4980C",
  "3720B4ec0C3c60B4ec0C3f00B4980C3f00B46e0C41a0B4c20C3f00B4980C3f00B46e0C41a0B4980C3f00B4980C",
  "3f00B46e0C4440B4980C3f00B46e0C41a0B4980C3f00B4980C3f00B46e0C41a0B4980C5160B24c0Ca2bcD24c0C",
  "5940D2f40C5940D31e0C56a0D3f00C49e0D2700C1f84B46e0C41a0B3c60Ca7cD2ca0C1f84B31e0C56a0B39c0C4ec0B",
  "3f00C46e0B41a0C46e0B4440C46e0B41a0C3f00B46e0C41a0B4980C3f00B4c20C3f00B46e0C41a0B4980C3f00B",
  "4980C3f00B46e0C41a0B41a0C5160B3720C5160B39c0C4ec0B3720C5160B3720C5160B3720C5160B3720C5400B",
  "2a00C1faa0B3480C5400B3480C5400B3480C5400B3480C5400B3720C5160B3720C5160B3720C5400B3480C5400B",
  "3480C5400B39bcC4ec0B39c0C4ec0B39c0C4ec0B39c0C5160B39c0C4ec0B39c0C4ec0B39c0C4ec0B39c0C4ec0B",
  "39c0C5160B3720C5160B39c0C4ec0B39c0C4ec0B39c0C4ec0B39c0C4ec0B39c0C4ec0B3c60C",
  "=Europe/Madrid",
  "@-884 0 3600 7200",
  "~C D 3.5.0/7200 10.5.0/10800",
  ".7e36b500B93fbcC4144B443cC44a4B26c3cC4024Bd1fcC3f04B46dcC41a4B4980C41a0B497cC3f04B41e1cC2884B",
  "443cCa7cD3a20C8ac8B3c5cC1235cD2d64C55dcD3f04C497cD3f04C497cD3f04C497cD3f04C1625cD39c4Cd1ffcD",
  "41a4C46dcD41a4C419cD4444C46dcD41a4C46e8D4440C4440D4440C46e0D41a0C4440D4440C4440D4440C4440D",
  "4440C4440D46e0C4440D4440C4440D4440C4440D4440C4440D4440C4440D4440C4440D46e0C4440D4440C4440D",
  "4440C4440D4440C4440D4440C4440D4440C46e0D",
  "=Europe/Malta",
  "@3484 3600 7200",
  "~B C 3.5.0/7200 10.5.0/10800",
  ".70bdd364B.2a7b250cC2c9cB4444C449cB3c04C4f1cB36c4C515cB3f04C443cBa8f64C14648B3720C46e0B43e0C",
  "3f00B49e0C3e38B44a8C4c20B3c58C4c20B3728C5160B96ef8C2f3cB5be4C2ca0B5be0C2ca0B5e80C2ca0B5be0C",
  "2ca0B5940C2f40B5be0C2f40B43e0C4440B4c80C3780B5108C39bcB4ec4C39bcB4ec4C39bcB4ec4C39bcB4ec4C",
  "39bcB49e4C413cB46e4C4440B4440C4440B4440C4440B4440C46e0B4440C4440B4440C4440B4440C4440B4440C",
  "4440B4440C4440B4440C46e0B4440C4440B4440C4440B4440C4440B4440C4440B4440C4440B46e0C",
  "=Europe/Minsk",
  "@6616 6600 7200 10800 3600 14400",
  ".56b6ca28B.5362e010C.b8a6f28D5e55cCb890E3720C46e0E4440C2214D13a8dcF449cD4444F449cD4444F449cD",
  "44a4F4448D4440F4440D4440F4440D4440F4440D4440F4440D4440F4440D113a4C4440D4440C4440D4440C4440D",
  "4440C4440D4440C46e0D4ec0C39c0D4ec0C39c0D4ec0C39c0D5160C3720D5160C3720D5160C39c0D4ec0C39c0D",
  "4ec0C39c0D5160C3720D5160C3720D5160C3720D5160C39c0D4ec0C39c0D4ec0C39c0D5160C3720D",
  "=Europe/Moscow W-SU",
  "@9017 9079 12679 16279 14400 10800 18000 7200",
  ".9b5f1ec7B.1dfd3b2C4320B3a1cD2824C60bcD.27cc97E1130Fcde0EcbcG3d80Eb44F88e4H42184F1b2b1cE449cF",
  "4444E449cF4444E449cF44a4E4448F4440E4440F4440E4440F4440E4440F4440E4440F4440E4440F4440E46e0F",
  "8884H2a00F1a3cE4440F4440E4440F4440E4440F4440E4440F46e0E4ec0F39c0E4ec0F39c0E4ec0F39c0E5160F",
  "3720E5160F3720E5160F39c0E4ec0F39c0E4ec0F39c0E5160F3720E5160F3720E5160F3720E5160F39c0E4ec0F",
  "39c0E4ec0F39c0E5160F3720E1eadcF",
  "=Europe/Paris Europe/Monaco",
  "@561 0 3600 7200",
  "~C D 3.5.0/7200 10.5.0/10800",
  ".9160504fB.9e728a1C28e0B4140C49e0B3960C4f20B36c0C51c0B3180C5e80B3540C5460B38a0C4980B56a0C31e0B",
  "41a0C46e0B4440C4440B4980C3f00B46e0C41a0B4980C41a0B4980C3f00B46e0C41a0B4980C3f00B4440C4440B",
  "41a0C4980B4440C4440B41a0C46e0B4980C3f00B4440C4440B41a0C46e0B4980C5160B24ccC2990D1464cC3720D",
  "46e0C4440D4678C4208D3ea0C10559cD443cC46e8D41a0C46e0D4440C4440D4440C46e0D41a0C4440D4440C4440D",
  "4440C4440D4440C4440D46e0C4440D4440C4440D4440C4440D4440C4440D4440C4440D4440C4440D46e0C4440D",
  "4440C4440D4440C4440D4440C4440D4440C4440D4440C46e0D",
  "=Europe/Prague Europe/Bratislava",
  "@3464 3600 7200 0",
  "~B C 3.5.0/7200 10.5.0/10800",
  ".6ccfeaf8B.2e3c2c68C3964B49e8C39c0B4ec0C39c0Bb8680C16260B3720C46e0B4440C4440B4440C4440B5160C",
  "3960B1504D1f80B14fcC3f00B4980C3f00B4680C4200Bfc7e0C4440B46e0C41a0B4440C4440B4440C4440B4440C",
  "4440B4440C46e0B4440C4440B4440C4440B4440C4440B4440C4440B4440C4440B4440C46e0B4440C4440B4440C",
  "4440B4440C4440B4440C4440B4440C4440B46e0C",
  "=Europe/Riga",
  "@5794 9394 7200 10800 3600 14400",
  "~C D 3.5.0/10800 10.5.0/14400",
  ".9eb987feB39c0A49e0B1320A3bab8C.1ac77282D7bbcCb770E3720C46e0E4440C4440E418D138298F449cD4444F",
  "449cD4444F449cD44a4F4448D4440F4440D4440F4440D4440F4440D4440F4440D8884C4440D46e0C4440D4440C",
  "4440D4440C4440D4440C4440D4440C4440D4440C46e0D4440C4444D",
  "=Europe/Rome Europe/San_Marino Europe/Vatican",
  "@2996 3600 7200",
  "~B C 3.5.0/7200 10.5.0/10800",
  ".70bc8170Bc15c0C2c9cB4444C449cB3c04C4f1cB36c4C515cB3f04C443cBa8f64C14648B3720C46e0B4440C3ea0B",
  "49e0C3e38B44a8C4c20B3c58C4c20B3728C5160B96ef8C2f3cB5be4C2ca0B5be0C2ca0B5e80C2ca0B5be0C2ca0B",
  "5940C2f40B5be0C2f40B5be0C2ca0B5940C2f40B5be0C2ca0B5be0C2ca0B5940C2f40B5be0C2f40B5940C2f40B",
  "46e8C41a0B4440C4440B4440C4440B4440C4440B4440C46e0B4440C4440B4440C4440B4440C4440B4440C4440B",
  "4440C4440B4440C46e0B4440C4440B4440C4440B4440C4440B4440C4440B4440C4440B46e0C",
  "=Europe/Samara",
  "@12020 10800 14400 18000",
  ".a1003980B5def4C1b2b1cD449cC4444D449cC4444D449cC44a4D4448C4440D4440C4440D4440C4440D4440C4440D",
  "4440C8884B4440C46e0B9064C3c58D4440C4440D4440C4440D4440C4440D4440C46e0D4ec0C39c0D4ec0C39c0D",
  "4ec0C39c0D5160C3720D5160C3720D5160C39c0D4ec0C39c0D4ec0C39c0D5160C3720D5160C3720D5160C3720D",
  "5160C39c0D4ec0C39c0D4ec0C8b24B3720C",
  "=Europe/Saratov",
  "@11058 10800 14400 18000",
  ".a1003980B5def4C1b2b1cD449cC4444D449cC4444D449cC44a4D4448C4440D4440C4440D4440C4440D4440C8884B",
  "4440C4440B4440C46e0B4440Cccc0B4440C4440B4440C4440B4440C4440B46e0C4ec0B39c0C4ec0B39c0C4ec0B",
  "39c0C5160B3720C5160B3720C5160B39c0C4ec0B39c0C4ec0B39c0C5160B3720C5160B3720C5160B3720C5160B",
  "39c0C4ec0B39c0C4ec0B39c0C5160B3720C1eadcB120c4C",
  "=Europe/Simferopol",
  "@8184 8160 7200 10800 3600 14400",
  ".56b6c408B.5362e018C.b8a7540D6149cC8950E3720C46e0E4440C3b4D13c73cF449cD4444F449cD4444F449cD",
  "44a4F4448D4440F4440D4440F4440D4440F4440D4440F4440D4440F4440D6900Ceee4D4440C4440D4440C4440Dd14F",
  "3728D4440F4440D46d8F4eccD8884C39c0D4ec0C39c0D5160C3720D5160C3720D5160C39c0D4ec0C39c0D4ec0C",
  "39c0D5160C3720D5160C3720D5160C3720D5160C39c0D4ec0C39c0D4ec0C39c0D5160C3720D5160C3720D5160C",
  "39c0D4ec0C39bcF4eb8D",
  "=Europe/Sofia",
  "@5596 7016 7200 3600 10800",
  "~C E 3.5.0/10800 10.5.0/14400",
  ".56b6ce24B.1c0d14f4C.5a2367f8D3720C46e0D4440C4440D4444C12304cE44a4C467cE4204C467cE41a8C46d8E",
  "41acC4440E4440C4440E46e0C4440E4440C4440E4440C4440E4440C4440E4440C4440E4440C4440E46e0C4438E",
  "443cC4444E443cC4444E443cC4444E443cC4444E443cC46e4E4ebcC39d0E",
  "=Europe/Tallinn",
  "@5940 3600 7200 10800 14400",
  "~C D 3.5.0/10800 10.5.0/14400",
  ".9e592dccB.6062c4C39c0B6bf8A.37343dcC.243d4694D97dcC9af0B3720C46e0B4440C4074D138a7cE449cD4444E",
  "449cD4444E449cD44a4E4448D4440E4440D4440E4440D4440E4440D4440E4440D8884C4440D46e0C4440D4440C",
  "4440D4440C4440D4440C4440D4440C4440D4440C46e0D4ec0C39c0D4ec0C39c0D4ec4C",
  "=Europe/Tirane",
  "@4760 3600 7200",
  "~B C 3.5.0/7200 10.5.0/10800",
  ".96aa3468B.31c35308C145e8B3720C480B109f18C389cB4f24C39bcB4fe4C39bcB5164C371cB5104C377cB5104C",
  "377cB5104C39bcB4c84C39bcB5164C39bcB49e4C3e3cB44a4C4448B4440C4440B4440C4440B4440C4440B4440C",
  "4440B4440C4440B4440C46e0B4440C4440B4440C4440B4440C4440B4440C4440B4440C4440B46e0C",
  "=Europe/Ulyanovsk",
  "@11616 10800 14400 18000 7200",
  ".a1003980B5def4C1b2b1cD449cC4444D449cC4444D449cC44a4D4448C4440D4440C4440D4440C4440D4440C4440D",
  "4440C8884B4440C46e0B8884E2a00B1a3cC4440B4440C4440B4440C4440B4440C4440B46e0C4ec0B39c0C4ec0B",
  "39c0C4ec0B39c0C5160B3720C5160B3720C5160B39c0C4ec0B39c0C4ec0B39c0C5160B3720C5160B3720C5160B",
  "3720C5160B39c0C4ec0B39c0C4ec0B39c0C5160B3720C1eadcBc244C",
  "=Europe/Vienna",
  "@3921 3600 7200",
  "~B C 3.5.0/7200 10.5.0/10800",
  ".6fa25f2fB.2b69b831C3964B49e8C39c0B4ec0C39c0Bd4a0C3c60Ba7580C16260B3720C46e0B4440C4440B4440C",
  "3c0B89a0C4200B43e0C4440B4980C3f00B10db78C419cB444cC4440B4440C4440B4440C4440B4440C46e0B4440C",
  "4440B4440C4440B4440C4440B4440C4440B4440C4440B4440C46e0B4440C4440B4440C4440B4440C4440B4440C",
  "4440B4440C4440B46e0C",
  "=Europe/Vilnius",
  "@6076 5040 5736 3600 7200 10800 14400",
  "~E F 3.5.0/10800 10.5.0/14400",
  ".56b6cc44B.4598530cC.5362b48D.16be658E215cDa9a44F79d8Eba10D3720E46e0D4440E2cf4F139dfcG449cF",
  "4444G449cF4444G449cF44a4G4448F4440G4440F4440G4440F4440G4440F4440G4440F8884E4440F46e0E4440F",
  "4440E4440F4440E4440F4440E4440F4440E4440F4440E46e0F4ec0E39c0F4ec0E8884D39c0E224a0F",
  "=Europe/Volgograd",
  "@10660 10800 14400 18000",
  ".a1f546dcB.13aec474C1b2b1cD449cC4444D449cC4444D449cC44a4D4448C4440D4440C4440D4440C4440D4440C",
  "8884B4440C4440B4440C46e0B4440Cccc0B4440C4440B4440C4440B4440C4440B46e0C4ec0B39c0C4ec0B39c0C",
  "4ec0B39c0C5160B3720C5160B3720C5160B39c0C4ec0B39c0C4ec0B39c0C5160B3720C5160B3720C5160B3720C",
  "5160B39c0C4ec0B39c0C4ec0B39c0C5160B3720C1eadcB224a4C1289cB",
  "=Europe/Warsaw Poland",
  "@5040 3600 7200 10800",
  "~B C 3.5.0/7200 10.5.0/10800",
  ".99a82ad0B.163ec90C3964B49e8C39c0B4ec0C88dcD39c0C172d8B9a9ecC14340B3720C46e0B4440C44fcB4d9cC",
  "45bcB3d84C4208B4e60C39c0B4980C3f00B46e0C41a0B419fcC2ca0B4440C4440B5be0C2f40B4440C4440B5940C",
  "2f40B5940C2f40B5940C2f40B5be0C2ca0B6b220C41a0B46e0C4440B4440C4440B46e0C41a0B4440C4440B4440C",
  "4440B4440C4440B4440C46e0B4440C4440B4440C4440B4440C4440B4444C4440B4440C4440B4440C46e0B4440C",
  "4440B4440C4440B4440C4440B4440C4440B4440C4440B46e0C",
  "=Europe/Zurich Europe/Busingen Europe/Vaduz",
  "@2048 1786 3600 7200",
  "~C D 3.5.0/7200 10.5.0/10800",
  ".24f0ea80B.4ce31c06C.5843637aD39c0C4ec0D39c0C1496a4D4440C4440D4440C4440D4440C4440D46e0C4440D",
  "4440C4440D4440C4440D4440C4440D4440C4440D4440C4440D46e0C4440D4440C4440D4440C4440D4440C4440D",
  "4440C4440D4440C46e0D",
  "=Factory",
  "@0",
  "=Indian/Chagos",
  "@17380 18000 21600",
  ".897ef79cB.a767e614C",
  "=Indian/Maldives Indian/Kerguelen",
  "@17640 18000",
  ".ed2fc398B",
  "=Indian/Mauritius",
  "@13800 14400 18000",
  ".897f0598B.8e86e7a8C3cbcBdb2acC39bcB",
  "=Pacific/Apia",
  "@45184 -41216 -41400 -39600 -36000 50400 46800",
  ".6e3dc900B9e4c0C.495c0838D207e9eE468cD41a0E2450F2290G4440F46e0G41a0F46e0G41a0F46e0G41a0F46e0G",
  "41a0F46e0G41a0F46e0G4440F46e0G41a0F46e0G41a0F46e0G",
  "=Pacific/Auckland Antarctica/McMurdo Antarctica/South_Pole NZ",
  "@41944 41400 45000 43200 46800",
  "~D E 9.5.0/7200 4.1.0/10800",
  ".41b74ca8B.6efd6640C2c9cB5404D39beB4ec2D39beB4ec2D39beB4ec2D3c5eB4c22D3c5eB4c22D4c1eB39c2D",
  "4ebeB39c2D4ebeB39c2D4ebeB39c2D4ebeB39c2D515eB3722D515eB39c2D123ddeE2a00D5be0E31e0D5940E2f40D",
  "5940E2f40D5940E2f40D5940E2f40D5940E2f40D5940E31e0D5940E2f40D5940E2f40D5940E2f40D5940E2f40D",
  "5940E2f40D5940E31e0D5940E2f40D5160E3c60D4c20E3c60D4c20E3c60D4c20E3f00D4980E3f00D4980E3f00D",
  "4980E3f00D4c20E3c60D4c20E3c60D4c20E3f00D4980E3f00D4980E3f00D4c20E3c60D4c20E3c60D4c20E3f00D",
  "4980E3f00D4980E3f00D4980E3f00D4980E",
  "=Pacific/Bougainville",
  "@37336 35312 36000 32400 39600",
  ".56b65228B.1c375268C.595591d0D1ae24C251b24E",
  "=Pacific/Chatham NZ-CHAT",
  "@44028 44100 45900 49500",
  "~C D 9.5.0/9900 4.1.0/13500",
  ".41b74484B.91235238Cf6de9D2a00C5be0D31e0C5940D2f40C5940D2f40C5940D2f40C5940D2f40C5940D2f40C",
  "5940D31e0C5940D2f40C5940D2f40C5940D2f40C5940D2f40C5940D2f40C5940D31e0C5940D2f40C5160D3c60C",
  "4c20D3c60C4c20D3c60C4c20D3f00C4980D3f00C4980D3f00C4980D3f00C4c20D3c60C4c20D3c60C4c20D3f00C",
  "4980D3f00C4980D3f00C4c20D3c60C4c20D3c60C4c20D3f00C4980D3f00C4980D3f00C4980D3f00C4980D",
  "=Pacific/Easter Chile/EasterIsland",
  "@-26248 -25200 -21600 -18000",
  "~C D 9.1.6/79200 4.1.6/79200",
  ".b9c74088B.4409fbb8C371cB5944C2f3cB4984C39bcB4ec4C39bcB5164C371cB4c24C3c5cB5164C371cB5164C",
  "39bcB4ec4C39bcB4ec4C39bcB5164C371cB5164C371cB5164C39bcB4ec4C8880D39bcC4ec4D39bcC5164D371cC",
  "5164D371cC5164D443cC4444D39bcC4ec4D39bcC5164D371cC46e4D419cC5164D39bcC4ec4D39bcC4ec4D39bcC",
  "4ec4D39bcC5164D371cC5164D3efcC4984D39bcC4984D46dcC46e4D39bcC5164D371cC5164D371cC5164D371cC",
  "5164D39bcC4ec4D39bcC4ec4D39bcC5164D371cC5164D3efcC4984D39bcC4ec4D419cC46e4D4ebcC2764D5e7cC",
  "2f44D593cC31e4D569cC31e4De6fcC2224D665cC2224D665cC2224D593cC39c4D4ebcC39c4D4ebcC39c4D4ebcC",
  "3c64D4c1cC",
  "=Pacific/Efate",
  "@40396 39600 43200",
  "29cd4dB.7483d68cC24c0B51364C443cB4444C443cB46e4C419cB46e4C443cB4444C443cB4444C443cB4444C443cB",
  "4444C443cB46e4C2c9cB6664C221cB",
  "=Pacific/Fakaofo",
  "@-41096 -39600 46800",
  ".7e375588B.d0c64428C",
  "=Pacific/Fiji",
  "@42944 43200 46800",
  ".9a13b1c0B.9c276620C2ca0B5e80C2a00B53820C2ca0B4ec0C31e0B56a0C2220B6660C2220B6900C1f7cB6ba4C",
  "1ce0B6ba0C1ce0B6e40C1a40B6e40C1a40B6e40C1a40B70e0C17a0B80a0Ca80B",
  "=Pacific/Galapagos",
  "@-21504 -18000 -21600",
  ".b6a44c80B.677477d0C3b224B19dcC",
  "=Pacific/Gambier",
  "@-32388 -32400",
  ".94504804B",
  "=Pacific/Guadalcanal Pacific/Pohnpei Pacific/Ponape",
  "@38388 39600",
  ".944f338cB",
  "=Pacific/Guam Pacific/Saipan",
  "@-51660 34740 36000 32400 39600",
  ".14e1c5ccB1df5e0C.4d016894D16984C7f984Eda3cC38644E.2a4278cC.c1f674E1a3cC5944E31dcC56a4E31dcC",
  "13864E1a3cC13444E.73f62cC.1430d54E2f3cC",
  "=Pacific/Honolulu HST Pacific/Johnston US/Hawaii",
  "@-37886 -37800 -34200 -36000",
  ".74e070beB.4624d28aC804B4aa9cC1f25cBe704D",
  "=Pacific/Kanton Pacific/Enderbury",
  "@0 -43200 -39600 46800",
  ".c32cdb80B168450C828bcD",
  "=Pacific/Kiritimati",
  "@-37760 -38400 -36000 50400",
  ".7e374880B.941ea980C.1caf39a0D",
  "=Pacific/Kosrae",
  "@-47284 39116 39600 32400 36000 43200",
  ".14e1b4b4B1df5e0C.19db799cD25208C995f8E245a4D251a4Ccee18Ffa67cC",
  "=Pacific/Kwajalein Kwajalein",
  "@40160 39600 36000 32400 -43200 43200",
  ".7e361820B.43b71db0C245a4D18664Bdb958Ecc83cF",
  "=Pacific/Marquesas",
  "@-33480 -34200",
  ".94504c48B",
  "=Pacific/Nauru",
  "@40060 41400 32400 43200",
  ".a3e72b04B.28a9bec4C19ecaB11e1feD",
  "=Pacific/Niue",
  "@-40780 -40800 -39600",
  ".dfa16a4cB.16054e14C",
  "=Pacific/Norfolk",
  "@40312 40320 41400 45000 39600 43200",
  "~E F 10.1.0/7200 4.1.0/10800",
  ".7e361788B.5e0be0f8C.2ccdd1e8D2f40C15b7c0E224a2F",
  "=Pacific/Noumea",
  "@39948 39600 43200",
  ".92f5c474B.7bf0f5dcC1fdcB68a4C203cB980acC2220B",
  "=Pacific/Pago_Pago Pacific/Midway Pacific/Samoa US/Samoa",
  "@45432 -40968 -39600",
  ".6e3dc808B9e4c0C",
  "=Pacific/Palau",
  "@-54124 32276 32400",
  ".14e1cf6cB1df5e0C",
  "=Pacific/Pitcairn",
  "@-31220 -30600 -28800",
  ".7e372ef4B.b70d1314C",
  "=Pacific/Port_Moresby Antarctica/DumontDUrville Pacific/Chuuk Pacific/Truk Pacific/Yap",
  "@35320 35312 36000",
  ".56b65a08B.1c374a88C",
  "=Pacific/Rarotonga",
  "@48056 -38344 -37800 -34200 -36000",
  ".7c4cdcc8B1c4100C.310aba60D29fcE5942D2f3eE5942D2f3eE5942D31deE5942D2f3eE5942D2f3eE5942D2f3eE",
  "5942D2f3eE5942D2f3eE5942D31deE5942D2f3eE5942D2f3eE5942D2f3eE",
  "=Pacific/Tahiti",
  "@-35896 -36000",
  ".945055b8B",
  "=Pacific/Tarawa Pacific/Funafuti Pacific/Majuro Pacific/Wake Pacific/Wallis",
  "@41524 43200",
  ".7e3612ccB",
  "=Pacific/Tongatapu",
  "@44352 44400 46800 50400",
  ".d2459c40B.1ccc43d0C.48e967c0D3d80C56a0D1f7cC6904D1f7cC7e7e4D1a40C"]

end TypedTemplate.ZoneTable
